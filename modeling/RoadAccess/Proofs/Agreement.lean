import RoadAccess.Command.Run
import RoadAccess.Csv.Library
import RoadAccess.Proofs.Annotation
import RoadAccess.Proofs.Table

namespace RoadAccess

open WayTable

/-!
# The three ways to classify

A way is classified in a row of a table, on an edge of a graph, or from the command line.  The three
keep their flags in different stores, under different edges, and treat a way that stays out
differently, but they come to the same access and the same senses.

* `Command.way_of_assess` — what the command prints;
* `Classifier.Agreed` — what it is for the three to come to one access and one pair;
* `entry_points_agree` — they always do.
-/

/-! ### From the command line -/

/-- Texts in the fields of an object are taken as they are. -/
theorem Tags.ofFields_text (pairs : List (String × String)) :
    Tags.ofFields (pairs.map fun (k, v) => (k, .text v)) = Tags.ofPairs pairs := by
  rw [Tags.ofFields, List.map_map]
  exact congrArg Tags.ofPairs (List.map_id pairs)

/-- The command prints what the tags of the pairs come to, if standard output takes it. -/
theorem Command.way_of_assess {c : Classifier} {place : Place} {pairs : List (String × String)}
    {a : Access} {d : Directions} (hpairs : ∀ pair ∈ pairs, Tags.Writable pair.1 pair.2)
    (h : c.assess (Tags.ofPairs pairs) .null = .ok (a, d))
    (hprint : place.refusal? "" (wayText a d) = none) :
    (Command.way c place (pairs.map fun (k, v) => Tags.writePair k v)).exit = .code 0 ∧
      (Command.way c place (pairs.map fun (k, v) => Tags.writePair k v)).printed = wayText a d := by
  have hresult : (c.classifyWay FlagTable.empty (Identifier.int 0) (Tags.ofPairs pairs)
      .null).result = .ok (a, d) := by
    rw [Classifier.result_classifyWay rfl rfl, h]
  have hwork : (wayWork c place (pairs.map fun (k, v) => Tags.writePair k v)).result = .ok () ∧
      (wayWork c place (pairs.map fun (k, v) => Tags.writePair k v)).state.printed = wayText a d := by
    simp only [wayWork, Tags.readPairs_writePair hpairs, hresult, Outcome.andThen, Except.mapError,
      print, hprint, Outcome.pure, String.empty_append, and_self]
  rw [way, hwork.1]
  exact ⟨rfl, hwork.2⟩

namespace Classifier

/-! ### Nodes -/

/-- Nodes that say nothing are as good as none. -/
theorem verdict_of_not_truthy (c : Classifier) (roundabout : Bool) (t : Tags) {nodes : Json}
    (h : nodes.truthy = false) :
    c.verdict roundabout t nodes = c.verdict roundabout t (.array []) := by
  rw [verdict, verdict, closes_of_not_truthy h, closes_of_not_truthy rfl]

/-- Objects for nodes always come to a verdict. -/
theorem verdict_objects (c : Classifier) (roundabout : Bool) (t : Tags)
    (nodes : List (List (String × Json))) :
    ∃ pair, c.verdict roundabout t (.array (nodes.map .object)) = .ok pair := by
  obtain ⟨b, hb⟩ := c.closes_objects t nodes
  cases hd : c.senses roundabout t with
  | none => exact ⟨none, verdict_of_skip ((c.senses_eq_none_iff roundabout t).1 hd) _ _⟩
  | some d => exact ⟨_, by rw [verdict_of_senses hd, hb]; rfl⟩

/-! ### Agreement -/

/-- Every way to classify an object of tags with a list of nodes comes to this access and to these
    senses. -/
structure Agreed (c : Classifier) (fields : List (String × Json))
    (nodes : List (List (String × Json))) (a : Access) (d : Directions) : Prop where
  /-- In a table that is classified, every row whose cells hold the object and the list has the
      record with the access and the senses; a list without nodes may be left out. -/
  row : ∀ (table : WayTable) (records : List WayRecord),
    (c.classifyTable table).result = .ok records →
    ∀ (i : Nat) (row : List Json), table.rows[i]? = some row →
      Holds (cell table.columns row "tags") (.object fields) →
      (Holds (cell table.columns row "node_tags") (.array (nodes.map .object)) ∨
        nodes = [] ∧ Vacant (cell table.columns row "node_tags")) →
      records[i]? = some ⟨cell table.columns row "way_id", a, d⟩
  /-- In a graph that is annotated, every edge that carries the object and the list is counted with
      the access, and its access attributes are the senses. -/
  edge : ∀ (g : Graph) (tally : Tally), (c.annotate g).result = .ok tally →
    ∃ outcomes, (c.annotateEdges g g.edges).result = .ok outcomes ∧
      tally = Tally.ofList outcomes ∧
      ∀ (i : Nat) (e : GraphEdge), g.edges[i]? = some e →
        g.attribute? e tagsAttribute = some (.object fields) →
        (g.attribute? e nodesAttribute = some (.array (nodes.map .object)) ∨
          nodes = [] ∧ g.attribute? e nodesAttribute = none) →
        outcomes[i]? = some a ∧
        (c.annotate g).state.attribute? e (Graph.attributeName c.accessKey false) =
          some (.bool d.forward) ∧
        (c.annotate g).state.attribute? e (Graph.attributeName c.accessKey true) =
          some (.bool d.backward)
  /-- From the command line, tags that can be written as pairs print the access and the senses,
      wherever standard output takes the line. -/
  way : nodes = [] → ∀ pairs : List (String × String),
    fields = pairs.map (fun (k, v) => (k, .text v)) →
    (∀ pair ∈ pairs, Tags.Writable pair.1 pair.2) →
    ∀ (place : Command.Place) (line : String),
      line = "access=" ++ a.word ++ " forward=" ++ Json.boolText d.forward ++ " backward=" ++
        Json.boolText d.backward ++ "\n" →
      place.refusal? "" line = none →
      (Command.way c place (pairs.map fun (k, v) => Tags.writePair k v)).exit = .code 0 ∧
        (Command.way c place (pairs.map fun (k, v) => Tags.writePair k v)).printed = line

/-- A row of a classified table has the record that its cells come to. -/
theorem record_of_assess {c : Classifier} {table : WayTable} {records : List WayRecord}
    (h : (c.classifyTable table).result = .ok records) {i : Nat} {row : List Json}
    (hi : table.rows[i]? = some row) {t : Tags} {nodes : Json}
    (hload : loadRow table.columns row = .ok (t, nodes)) {a : Access} {d : Directions}
    (hassess : c.assess t nodes = .ok (a, d)) :
    records[i]? = some ⟨cell table.columns row "way_id", a, d⟩ := by
  obtain ⟨record, hrecord, hget⟩ := rowRecords_getElem? (rowRecords_of_classifyTable h) hi
  rw [rowRecord, hload] at hrecord
  simp only [hassess] at hrecord
  rw [hget, ← Except.ok.inj hrecord]

/-- An edge of an annotated graph is counted with the access to its way and has the senses of its
    verdict. -/
theorem annotated_of_verdict {c : Classifier} {g : Graph} {tally : Tally}
    (h : (c.annotate g).result = .ok tally) (htags : tagsAttribute ∉ c.flagAttributes)
    (hnodes : nodesAttribute ∉ c.flagAttributes) :
    ∃ outcomes, (c.annotateEdges g g.edges).result = .ok outcomes ∧
      tally = Tally.ofList outcomes ∧
      ∀ (i : Nat) (e : GraphEdge), g.edges[i]? = some e →
        ∀ (way : Json) (t : Tags) (pair : Option Directions),
          g.attribute? e tagsAttribute = some way → Tags.ofJson? way = some t →
          c.verdict t.isRoundabout t ((g.attribute? e nodesAttribute).getD .null) = .ok pair →
          outcomes[i]? = some (c.access t) ∧
          (c.annotate g).state.attribute? e (Graph.attributeName c.accessKey false) =
            some (.bool (pair.getD .closed).forward) ∧
          (c.annotate g).state.attribute? e (Graph.attributeName c.accessKey true) =
            some (.bool (pair.getD .closed).backward) := by
  rw [result_annotate] at h
  obtain ⟨outcomes, hrun, rfl⟩ := Outcome.ok_of_map h
  refine ⟨outcomes, hrun, rfl, ?_⟩
  intro i e hi way t pair hway ht hv
  constructor
  · rw [outcomes_annotateEdges htags hrun, List.getElem?_map, hi, Option.map_some, wayAccess, hway]
    simp only [Option.getD_some, ht, Option.map_some]
  · have hmem : e ∈ g.edges := List.mem_of_getElem? hi
    rw [state_annotate]
    exact access_annotateEdges htags hnodes hrun hmem (by rw [hway]; exact ht) hv

/-- **The three ways to classify agree.**  As long as the roundabout flag and the access flags have
    different keys and no flag is kept where a graph has its tags, a way with given tags and nodes
    has one access and one pair of senses, in every table, on every edge and from the command
    line. -/
theorem entry_points_agree (c : Classifier) (hkeys : c.roundaboutKey ≠ c.accessKey)
    (haccess : c.accessKey ∉ [tagsAttribute, nodesAttribute])
    (hround : c.roundaboutKey ∉ [tagsAttribute, nodesAttribute])
    (fields : List (String × Json)) (nodes : List (List (String × Json))) :
    ∃ a d, c.assess (Tags.ofFields fields) (.array (nodes.map .object)) = .ok (a, d) ∧
      c.Agreed fields nodes a d := by
  simp only [List.mem_cons, List.not_mem_nil, or_false, not_or] at haccess hround
  have htags : tagsAttribute ∉ c.flagAttributes :=
    not_mem_flagAttributes (by decide) haccess.1 hround.1
  have hnodes : nodesAttribute ∉ c.flagAttributes :=
    not_mem_flagAttributes (by decide) haccess.2 hround.2
  -- Everything comes down to the verdict on the tags, which is there because the nodes are objects.
  let t := Tags.ofFields fields
  obtain ⟨pair, hv⟩ := c.verdict_objects t.isRoundabout t nodes
  have hassess : c.assess t (.array (nodes.map .object)) =
      .ok (c.access t, pair.getD .closed) := by
    rw [assess, hv, unsettled_of_ne hkeys]
    rfl
  refine ⟨c.access t, pair.getD .closed, hassess, ?_, ?_, ?_⟩
  · intro table records h i row hi hway hcell
    exact record_of_assess h hi (loadRow_of_holds hway (by simpa using hcell)) hassess
  · intro g tally h
    obtain ⟨outcomes, hrun, htally, hedges⟩ := annotated_of_verdict h htags hnodes
    refine ⟨outcomes, hrun, htally, ?_⟩
    intro i e hi hway hlist
    refine hedges i e hi _ t pair hway (Tags.ofJson?_object fields) ?_
    rcases hlist with hlist | ⟨rfl, hlist⟩
    · rw [hlist]
      exact hv
    · rw [hlist]
      exact (c.verdict_of_not_truthy _ t rfl).trans hv
  · rintro rfl pairs rfl hpairs place line rfl hprint
    -- The command has no nodes where the table and the graph have an empty list.
    refine Command.way_of_assess hpairs ?_ hprint
    rw [← Tags.ofFields_text, ← hassess, assess, assess, c.verdict_of_not_truthy _ _ rfl]
    rfl

/-- A street on a roundabout: in the second row of a table, on an edge that was marked as open against
    its geometry, and as pairs. -/
theorem entry_points_agree_on_roundabout :
    let c : Classifier := {}
    let fields := [("highway", Json.text "tertiary"), ("junction", .text "roundabout")]
    let table : WayTable :=
      { columns := ["way_id", "tags", "node_tags"]
        rows :=
          [[.int 7, .object [("highway", .text "motorway")], .null],
            [.int 8, .object fields, .text "[]"]] }
    let e : GraphEdge := (.int 1, .int 2)
    let g := Graph.empty.addEdge e [("tags", .object fields), ("bike_access_reverse", .bool true)]
    let place : Command.Place :=
      { working := []
        homes := fun _ => none
        disk := fun _ => .missing
        library := Csv.library
        refusal? := fun _ _ => none }
    c.roundaboutKey ≠ c.accessKey ∧ c.accessKey ∉ [tagsAttribute, nodesAttribute] ∧
      c.roundaboutKey ∉ [tagsAttribute, nodesAttribute] ∧
      (∃ records, (c.classifyTable table).result = .ok records ∧
        records[1]? = some ⟨.int 8, .routable, ⟨true, false⟩⟩) ∧
      (c.annotate g).result = .ok [(.routable, 1)] ∧
      (c.annotate g).state.attribute? e "bike_access_reverse" = some (.bool false) ∧
      (Command.way c place ["highway=tertiary", "junction=roundabout"]).printed =
        "access=routable forward=True backward=False\n" := by
  intro c fields table e g place
  have hkeys : c.roundaboutKey ≠ c.accessKey := by decide
  have haccess : c.accessKey ∉ [tagsAttribute, nodesAttribute] := by decide
  have hround : c.roundaboutKey ∉ [tagsAttribute, nodesAttribute] := by decide
  obtain ⟨a, d, hassess, hagreed⟩ := entry_points_agree c hkeys haccess hround fields []
  have hvalue : c.assess (Tags.ofFields fields) (.array []) = .ok (.routable, ⟨true, false⟩) := rfl
  obtain ⟨rfl, rfl⟩ := Prod.mk.inj (Except.ok.inj (hvalue.symm.trans hassess))
  have htable : (c.classifyTable table).result =
      .ok [⟨.int 7, .skip, .closed⟩, ⟨.int 8, .routable, ⟨true, false⟩⟩] := rfl
  have hgraph : (c.annotate g).result = .ok [(.routable, 1)] := rfl
  refine ⟨hkeys, haccess, hround, ⟨_, htable, ?_⟩, hgraph, ?_, ?_⟩
  · exact hagreed.row table _ htable 1 _ rfl (.value _) (.inl (.text rfl))
  · obtain ⟨outcomes, -, -, hedges⟩ := hagreed.edge g _ hgraph
    exact (hedges 0 e rfl rfl (.inr ⟨rfl, rfl⟩)).2.2
  · have hpairs : ∀ pair ∈ [("highway", "tertiary"), ("junction", "roundabout")],
        Tags.Writable pair.1 pair.2 := by
      simp only [List.forall_mem_cons, List.not_mem_nil, false_imp_iff, implies_true, and_true]
      exact ⟨⟨by decide, by decide, by decide, by decide⟩,
        ⟨by decide, by decide, by decide, by decide⟩⟩
    exact (hagreed.way rfl _ rfl hpairs place _ rfl rfl).2

end Classifier

end RoadAccess
