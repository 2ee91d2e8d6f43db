import RoadAccess.Proofs.Annotation
import RoadAccess.Proofs.Failure
import RoadAccess.Proofs.Table

namespace RoadAccess

open WayTable

/-!
# The shape of results

Not every access goes with every pair of senses.  A way that stays out is closed, a way that enters
the network is closed only by a node, and of the others only a routable one is ever open in a single
sense.

* `Classifier.Barred` — the first node of an edge that stands for a point barrier closes it;
* `Classifier.closes_eq_true_iff` — that is when handling closes an edge;
* `Classifier.Shaped` — which pairs of senses go with an access;
* `Classifier.shaped_of_verdict` — every verdict has this shape;
* `results_shaped` — and so has every row of a table and every edge of a graph.
-/

namespace Classifier

variable {c : Classifier}

/-! ### Barred edges -/

/-- The edge of a way is barred: it stands for a point barrier, and the first of its nodes is a
    barrier. -/
def Barred (c : Classifier) (t : Tags) (nodes : Json) : Prop :=
  t.has barrierEdgeTag = true ∧ ∃ node rest n,
    nodes = .array (node :: rest) ∧ Tags.ofJson? node = some n ∧ c.profile.isBarrier n = true

/-- A first node with tags is the first item of a list: the first character of a text has none. -/
theorem eq_array_of_firstNode? {nodes node : Json} {n : Tags}
    (h : firstNode? nodes = .ok (some node)) (hn : Tags.ofJson? node = some n) :
    ∃ rest, nodes = .array (node :: rest) := by
  unfold firstNode? at h
  split at h
  · split at h
    · next first rest _ =>
      obtain rfl := Option.some.inj (Except.ok.inj h)
      exact ⟨rest, rfl⟩
    · next s _ =>
      obtain ⟨ch, -, rfl⟩ := Option.map_eq_some_iff.1 (Except.ok.inj h)
      rw [ofJson?_character] at hn
      cases hn
    · cases h
    · cases h
  · cases h

/-- Handling closes exactly the barred edges. -/
theorem closes_eq_true_iff (c : Classifier) (t : Tags) (nodes : Json) :
    c.closes t nodes = .ok true ↔ c.Barred t nodes := by
  constructor
  · intro h
    unfold closes at h
    by_cases ht : t.has barrierEdgeTag = true
    · rw [if_pos ht] at h
      cases hfirst : firstNode? nodes with
      | error f =>
        rw [hfirst] at h
        cases h
      | ok node? =>
        rw [hfirst] at h
        cases node? with
        | none => cases h
        | some node =>
          obtain ⟨n, hn, hbarrier⟩ := (Option.any_eq_true ..).1 ((c.blocks_eq_true_iff node).1 h)
          obtain ⟨rest, hnodes⟩ := eq_array_of_firstNode? hfirst hn
          exact ⟨ht, node, rest, n, hnodes, hn, hbarrier⟩
    · rw [if_neg ht] at h
      cases h
  · rintro ⟨ht, node, rest, n, rfl, hn, hbarrier⟩
    have hfirst : firstNode? (.array (node :: rest)) = .ok (some node) := rfl
    rw [closes, if_pos ht, hfirst]
    exact (c.blocks_eq_true_iff node).2 ((Option.any_eq_true ..).2 ⟨n, hn, hbarrier⟩)

/-! ### Shapes -/

/-- The pairs of senses that go with an access, for a way with these tags and nodes. -/
structure Shaped (c : Classifier) (t : Tags) (nodes : Json) (a : Access) (d : Directions) :
    Prop where
  /-- A way that stays out is closed. -/
  closed_of_skip : a = .skip → d = .closed
  /-- A way that enters the network is closed exactly if its edge is barred. -/
  closed_iff : a ≠ .skip → (d = .closed ↔ c.Barred t nodes)
  /-- A ferry that is not barred is open in both senses. -/
  both_of_ferry : a = .ferry → ¬ c.Barred t nodes → d = .both
  /-- A routable way that is not barred is open in one sense at least. -/
  open_of_routable : a = .routable → ¬ c.Barred t nodes → d.forward = true ∨ d.backward = true
  /-- Only a routable way is open in one sense and closed in the other. -/
  routable_of_ne : d.forward ≠ d.backward → a = .routable

/-- The senses in which the tags open a way that enters the network: both for a ferry, the
    resolved ones for a routable way. -/
theorem senses_eq_some {roundabout : Bool} {t : Tags} {d : Directions}
    (h : c.senses roundabout t = some d) :
    (c.access t = .routable ∧ d = c.profile.directions t roundabout) ∨
      (c.access t = .ferry ∧ d = .both) := by
  unfold senses at h
  cases ha : c.access t with
  | routable =>
    rw [ha] at h
    exact .inl ⟨rfl, (Option.some.inj h).symm⟩
  | ferry =>
    rw [ha] at h
    exact .inr ⟨rfl, (Option.some.inj h).symm⟩
  | skip =>
    rw [ha] at h
    cases h

/-- The tags of a way that enters the network open it in one sense at least. -/
theorem senses_open {roundabout : Bool} {t : Tags} {d : Directions}
    (h : c.senses roundabout t = some d) : d.forward = true ∨ d.backward = true := by
  rcases senses_eq_some h with ⟨-, rfl⟩ | ⟨-, rfl⟩
  · exact Profile.directions_open ..
  · exact .inl rfl

theorem ne_closed_of_open {d : Directions} (h : d.forward = true ∨ d.backward = true) :
    d ≠ .closed := by
  rintro rfl
  simp [Directions.closed] at h

theorem shaped_of_skip (c : Classifier) (t : Tags) (nodes : Json) :
    c.Shaped t nodes .skip .closed where
  closed_of_skip _ := rfl
  closed_iff h := absurd rfl h
  both_of_ferry := nofun
  open_of_routable := nofun
  routable_of_ne h := absurd rfl h

/-- A barred edge is closed, whatever the access to its way. -/
theorem shaped_of_barred {t : Tags} {nodes : Json} (h : c.Barred t nodes) (a : Access) :
    c.Shaped t nodes a .closed where
  closed_of_skip _ := rfl
  closed_iff _ := ⟨fun _ => h, fun _ => rfl⟩
  both_of_ferry _ hno := absurd h hno
  open_of_routable _ hno := absurd h hno
  routable_of_ne hne := absurd rfl hne

/-- An edge that is not barred is open as its tags say. -/
theorem shaped_of_senses {roundabout : Bool} {t : Tags} {nodes : Json} {d : Directions}
    (hno : ¬ c.Barred t nodes) (hd : c.senses roundabout t = some d) :
    c.Shaped t nodes (c.access t) d where
  closed_of_skip ha := absurd ha (access_ne_skip hd)
  closed_iff _ :=
    ⟨fun hclosed => absurd hclosed (ne_closed_of_open (senses_open hd)), fun h => absurd h hno⟩
  both_of_ferry ha _ := by
    rcases senses_eq_some hd with ⟨hr, -⟩ | ⟨-, hboth⟩
    · rw [hr] at ha
      cases ha
    · exact hboth
  open_of_routable _ _ := senses_open hd
  routable_of_ne hne := by
    rcases senses_eq_some hd with ⟨hr, -⟩ | ⟨-, rfl⟩
    · exact hr
    · exact absurd rfl hne

/-- **Every verdict has the shape of a result.** -/
theorem shaped_of_verdict {roundabout : Bool} {t : Tags} {nodes : Json} {pair : Option Directions}
    (h : c.verdict roundabout t nodes = .ok pair) :
    c.Shaped t nodes (c.access t) (pair.getD .closed) := by
  rcases verdict_eq_ok h with ⟨ha, rfl⟩ | ⟨d, b, hd, hc, rfl⟩
  · rw [ha]
    exact shaped_of_skip c t nodes
  · have hbarred : b = true ↔ c.Barred t nodes := by
      rw [← closes_eq_true_iff, hc, Except.ok.injEq]
    cases b with
    | true => exact shaped_of_barred (hbarred.1 rfl) _
    | false => exact shaped_of_senses (fun h => Bool.false_ne_true (hbarred.2 h)) hd

/-! ### Rows and edges -/

/-- A row of a classified table has a record of the right shape. -/
theorem shaped_of_classifyTable (hkeys : c.roundaboutKey ≠ c.accessKey) {table : WayTable}
    {records : List WayRecord} (h : (c.classifyTable table).result = .ok records) {i : Nat}
    {record : WayRecord} (hi : records[i]? = some record) :
    ∃ row t nodes, table.rows[i]? = some row ∧ loadRow table.columns row = .ok (t, nodes) ∧
      record.way = cell table.columns row "way_id" ∧ record.access = c.access t ∧
      c.Shaped t nodes record.access record.directions := by
  have hrecords := rowRecords_of_classifyTable h
  obtain ⟨hlt, -⟩ := List.getElem?_eq_some_iff.1 hi
  rw [length_of_rowRecords hrecords] at hlt
  have hrow : table.rows[i]? = some table.rows[i] := List.getElem?_eq_getElem hlt
  obtain ⟨record', hrecord, hi'⟩ := rowRecords_getElem? hrecords hrow
  obtain rfl := Option.some.inj (hi.symm.trans hi')
  obtain ⟨t, nodes, pair, hload, hv, rfl⟩ := rowRecord_eq_ok hrecord
  refine ⟨_, t, nodes, hrow, hload, rfl, rfl, ?_⟩
  -- A way that stays out leaves the flags unwritten, and those are read as closed.
  rw [unsettled_of_ne hkeys]
  exact shaped_of_verdict hv

/-- An edge of an annotated graph has access attributes of the right shape. -/
theorem shaped_of_annotate (haccess : c.accessKey ∉ [tagsAttribute, nodesAttribute])
    (hround : c.roundaboutKey ∉ [tagsAttribute, nodesAttribute]) {g : Graph} {tally : Tally}
    (h : (c.annotate g).result = .ok tally) {e : GraphEdge} (he : e ∈ g.edges) :
    ∃ t d, Tags.ofJson? ((g.attribute? e tagsAttribute).getD .null) = some t ∧
      c.Shaped t ((g.attribute? e nodesAttribute).getD .null) (c.access t) d ∧
      (c.annotate g).state.attribute? e (Graph.attributeName c.accessKey false) =
        some (.bool d.forward) ∧
      (c.annotate g).state.attribute? e (Graph.attributeName c.accessKey true) =
        some (.bool d.backward) := by
  obtain ⟨htags, hnodes⟩ := attributes_apart haccess hround
  rw [result_annotate] at h
  obtain ⟨outcomes, hrun, -⟩ := Outcome.ok_of_map h
  obtain ⟨t, pair, hway, hv⟩ := verdict_of_annotateEdges htags hnodes hrun he
  refine ⟨t, pair.getD .closed, hway, shaped_of_verdict hv, ?_⟩
  rw [state_annotate]
  exact access_annotateEdges htags hnodes hrun he hway hv

end Classifier

/-- **The shape of results.**  Every row of a table that is classified, and the access attributes of
    every edge of a graph that is annotated, have the shape that goes with the access to the way; and
    the tags of a routable way never close it in both senses. -/
theorem results_shaped (c : Classifier) :
    (c.roundaboutKey ≠ c.accessKey →
      ∀ (table : WayTable) (records : List WayRecord),
        (c.classifyTable table).result = .ok records →
        ∀ (i : Nat) (record : WayRecord), records[i]? = some record →
          ∃ row t nodes, table.rows[i]? = some row ∧
            loadRow table.columns row = .ok (t, nodes) ∧
            record.way = cell table.columns row "way_id" ∧ record.access = c.access t ∧
            c.Shaped t nodes record.access record.directions) ∧
    (c.accessKey ∉ [Classifier.tagsAttribute, Classifier.nodesAttribute] →
      c.roundaboutKey ∉ [Classifier.tagsAttribute, Classifier.nodesAttribute] →
      ∀ (g : Graph) (tally : Tally), (c.annotate g).result = .ok tally →
        ∀ e ∈ g.edges, ∃ t d,
          Tags.ofJson? ((g.attribute? e Classifier.tagsAttribute).getD .null) = some t ∧
          c.Shaped t ((g.attribute? e Classifier.nodesAttribute).getD .null) (c.access t) d ∧
          (c.annotate g).state.attribute? e (Graph.attributeName c.accessKey false) =
            some (.bool d.forward) ∧
          (c.annotate g).state.attribute? e (Graph.attributeName c.accessKey true) =
            some (.bool d.backward)) ∧
    ∀ (p : Profile) (t : Tags) (roundabout : Bool),
      (p.directions t roundabout).forward = true ∨ (p.directions t roundabout).backward = true := by
  refine ⟨?_, ?_, Profile.directions_open⟩
  · intro hkeys table records h i record hi
    exact Classifier.shaped_of_classifyTable hkeys h hi
  · intro haccess hround g tally h e he
    exact Classifier.shaped_of_annotate haccess hround h he

/-- A path through a fence, as the second row of a table and on an edge that was marked as open. -/
theorem results_shaped_at_fence :
    let c : Classifier := {}
    let path := [("highway", Json.text "path"), ("barrier_edge", .text "yes")]
    let fence := Json.array [.object [("barrier", .text "fence")]]
    let table : WayTable :=
      { columns := ["way_id", "tags", "node_tags"]
        rows := [[.int 1, .object [("route", .text "ferry")], .null], [.int 2, .object path, fence]] }
    let e : GraphEdge := (.int 1, .int 2)
    let g := Graph.empty.addEdge e
      [("tags", .object path), ("node_tags", fence), ("bike_access", .bool true)]
    c.roundaboutKey ≠ c.accessKey ∧
      c.accessKey ∉ [Classifier.tagsAttribute, Classifier.nodesAttribute] ∧
      c.roundaboutKey ∉ [Classifier.tagsAttribute, Classifier.nodesAttribute] ∧
      (c.classifyTable table).result =
        .ok [⟨.int 1, .ferry, .both⟩, ⟨.int 2, .routable, .closed⟩] ∧
      c.Barred (Tags.ofFields path) fence ∧
      (c.annotate g).result = .ok [(.routable, 1)] ∧
      (c.annotate g).state.attribute? e "bike_access" = some (.bool false) := by
  intro c path fence table e g
  have hkeys : c.roundaboutKey ≠ c.accessKey := by decide
  have haccess : c.accessKey ∉ [Classifier.tagsAttribute, Classifier.nodesAttribute] := by decide
  have hround : c.roundaboutKey ∉ [Classifier.tagsAttribute, Classifier.nodesAttribute] := by
    decide
  have htable : (c.classifyTable table).result =
      .ok [⟨.int 1, .ferry, .both⟩, ⟨.int 2, .routable, .closed⟩] := rfl
  have hgraph : (c.annotate g).result = .ok [(.routable, 1)] := rfl
  obtain ⟨row, t, nodes, hrow, hload, -, -, hshaped⟩ :=
    (results_shaped c).1 hkeys table _ htable 1 _ rfl
  -- The record is closed although its way enters the network, so the edge is barred.
  have hbarred : c.Barred t nodes := (hshaped.closed_iff nofun).1 rfl
  obtain rfl := Option.some.inj hrow
  obtain ⟨rfl, rfl⟩ := Prod.mk.inj (Except.ok.inj hload)
  obtain ⟨t, d, ht, hedge, hforward, -⟩ :=
    (results_shaped c).2.1 haccess hround g _ hgraph e List.mem_cons_self
  obtain rfl := Option.some.inj ht
  have hclosed : d = .closed := (hedge.closed_iff (by decide)).2 hbarred
  rw [hclosed] at hforward
  exact ⟨hkeys, haccess, hround, htable, hbarred, hgraph, hforward⟩

end RoadAccess
