import RoadAccess.Proofs.Order
import RoadAccess.Proofs.Relevance
import RoadAccess.Proofs.Table

namespace RoadAccess

open WayTable

/-!
# Undocumented tags make no difference

Two ways that no documented tag tells apart are handled alike on every store, in every row of a table
and on every edge of a graph.

* `Classifier.verdict_eq_of_indistinct` — their tags come to one verdict;
* `Classifier.handle_eq_of_alike` — handling answers the same and leaves the same store;
* `WayTable.RowsAlike` — rows that hold such ways; `Classifier.classifyTable_eq_of_alike` — tables of
  such rows come out equal;
* `Graph.EdgesAlike` — an edge that carries such ways in two graphs;
  `Classifier.annotateEdges_eq_of_alike`, `Classifier.flags_annotate_eq_of_alike` — graphs of such
  edges come out with equal counts and flags;
* `documented_tags_decide` — the whole.
-/

namespace Classifier

variable {c : Classifier} {t u : Tags} {nodes nodes' : Json}

/-! ### One verdict -/

theorem access_eq_of_indistinct (hferry : c.isFerry = Tags.isFerry)
    (h : c.profile.Indistinct t nodes u nodes') : c.access t = c.access u := by
  rw [access, access, hferry]
  exact Profile.access_eq_of_agreeOn (h.agree.mono c.profile.accessKeys_subset)

theorem senses_eq_of_indistinct (hferry : c.isFerry = Tags.isFerry)
    (h : c.profile.Indistinct t nodes u nodes') (roundabout : Bool) :
    c.senses roundabout t = c.senses roundabout u := by
  rw [senses, senses, access_eq_of_indistinct hferry h,
    Profile.directions_eq_of_agreeOn (h.agree.mono c.profile.directionKeys_subset)]

/-- First nodes that describe the same block alike, and neither can be read if one cannot. -/
theorem blocks_eq_of_alikeOn {node node' : Json} (h : Json.AlikeOn c.profile.nodeKeys node node') :
    c.blocks node = c.blocks node' := by
  rw [blocks, blocks]
  rcases h.tags with ⟨hn, hn'⟩ | ⟨n, n', hn, hn', hagree⟩
  · rw [hn, hn']
  · rw [hn, hn']
    exact congrArg Except.ok (Profile.isBarrier_eq_of_agreeOn hagree)

theorem closes_eq_of_indistinct (h : c.profile.Indistinct t nodes u nodes') :
    c.closes t nodes = c.closes u nodes' := by
  rw [closes, closes, ← h.barrier]
  by_cases ht : t.has barrierEdgeTag = true
  · rw [if_pos ht, if_pos ht]
    cases h.nodes ht with
    | same => rfl
    | vacant hn hn' =>
      have hfirst : ∀ {v : Json}, v.truthy = false → firstNode? v = .ok none := fun hv => by
        simp [firstNode?, hv]
      rw [hfirst hn, hfirst hn']
    | first rest rest' hnode => exact blocks_eq_of_alikeOn hnode
  · rw [if_neg ht, if_neg ht]

/-- **Tags that are not told apart come to one verdict.** -/
theorem verdict_eq_of_indistinct (hferry : c.isFerry = Tags.isFerry)
    (h : c.profile.Indistinct t nodes u nodes') (roundabout : Bool) :
    c.verdict roundabout t nodes = c.verdict roundabout u nodes' := by
  rw [verdict, verdict, senses_eq_of_indistinct hferry h, closes_eq_of_indistinct h]

/-! ### Handling -/

section

variable {σ ε : Type} [DecidableEq ε] [FlagStore σ ε] [LawfulFlagStore σ ε]

/-- Handling depends on the tags and nodes through the access, the senses and the closing alone. -/
theorem handleTags_eq {nodes nodes' : Json} (ha : c.access t = c.access u)
    (hsenses : ∀ roundabout, c.senses roundabout t = c.senses roundabout u)
    (hcloses : c.closes t nodes = c.closes u nodes') (s : σ) (e : ε) :
    (c.handleTags s e t nodes).result = (c.handleTags s e u nodes').result ∧
      (c.handleTags s e t nodes).state = (c.handleTags s e u nodes').state := by
  cases hd : c.senses (FlagStore.get s (c.roundaboutSlot e)) t with
  | none =>
    have hskip := (c.senses_eq_none_iff _ t).1 hd
    rw [handleTags_of_skip hskip, handleTags_of_skip (ha ▸ hskip)]
    exact ⟨rfl, rfl⟩
  | some d =>
    have hd' := hd
    rw [hsenses] at hd'
    cases hs : FlagStore.fault? s e with
    | some f =>
      rw [handleTags_of_fault (access_ne_skip hd) hs, handleTags_of_fault (access_ne_skip hd') hs]
      exact ⟨rfl, rfl⟩
    | none =>
      constructor
      · rw [result_handleTags hs, result_handleTags hs, verdict_of_senses hd, verdict_of_senses hd',
          hcloses, ha]
      · cases hc : c.closes t nodes with
        | error f =>
          rw [state_handleTags_of_error hs hd hc, state_handleTags_of_error hs hd' (hcloses ▸ hc)]
        | ok b => rw [state_handleTags hs hd hc, state_handleTags hs hd' (hcloses ▸ hc)]

/-- **Ways that are not told apart are handled alike.** -/
theorem handle_eq_of_alike (hferry : c.isFerry = Tags.isFerry) {way way' : Json}
    (h : c.profile.Alike way nodes way' nodes') (s : σ) (e : ε) :
    (c.handle s e way nodes).result = (c.handle s e way' nodes').result ∧
      (c.handle s e way nodes).state = (c.handle s e way' nodes').state := by
  rcases h.tags with ⟨hw, hw'⟩ | ⟨t, u, hw, hw', hindistinct⟩
  · rw [handle_of_unreadable hw, handle_of_unreadable hw']
    exact ⟨rfl, rfl⟩
  · rw [handle_of_tags hw, handle_of_tags hw']
    exact handleTags_eq (access_eq_of_indistinct hferry hindistinct)
      (senses_eq_of_indistinct hferry hindistinct) (closes_eq_of_indistinct hindistinct) s e

end

/-- Nodes are not asked for an edge that does not stand for a point barrier. -/
theorem handle_eq_of_no_barrier_tag {σ ε : Type} [FlagStore σ ε] (c : Classifier)
    {fields : List (String × Json)} (h : Json.labelAt? fields barrierEdgeTag = none) (s : σ) (e : ε)
    (nodes nodes' : Json) :
    c.handle s e (.object fields) nodes = c.handle s e (.object fields) nodes' := by
  have hnot : (Tags.ofFields fields).has barrierEdgeTag = false := by
    rw [Tags.has, Tags.get?_ofFields, h]
    rfl
  have hfirst : ∀ (s : σ) v, c.blockFirst s e (Tags.ofFields fields) v = .pure s () := by
    intro s v
    rw [blockFirst, hnot]
    rfl
  simp only [handle_of_tags (Tags.ofJson?_object fields), handleTags, hfirst]

end Classifier

/-! ### Rows of a table -/

/-- Two rows with the same way are not told apart: they are one row, or their cells hold objects of
    tags and lists of nodes that are not told apart; a list without nodes may be left out. -/
inductive WayTable.RowsAlike (p : Profile) (columns : List String) : (row row' : List Json) → Prop
  | same (row : List Json) : RowsAlike p columns row row
  | objects {row row' : List Json} {fields fields' : List (String × Json)} {nodes nodes' : List Json}
      (hid : cell columns row "way_id" = cell columns row' "way_id")
      (hway : Holds (cell columns row "tags") (.object fields))
      (hway' : Holds (cell columns row' "tags") (.object fields'))
      (hnodes : Holds (cell columns row "node_tags") (.array nodes) ∨
        nodes = [] ∧ Vacant (cell columns row "node_tags"))
      (hnodes' : Holds (cell columns row' "node_tags") (.array nodes') ∨
        nodes' = [] ∧ Vacant (cell columns row' "node_tags"))
      (h : p.Alike (.object fields) (.array nodes) (.object fields') (.array nodes')) :
      RowsAlike p columns row row'

namespace Classifier

variable {c : Classifier}

theorem rowRecord_eq_of_alike (hferry : c.isFerry = Tags.isFerry) {columns : List String}
    {row row' : List Json} (h : RowsAlike c.profile columns row row') (position : Nat) :
    c.rowRecord columns position row = c.rowRecord columns position row' := by
  cases h with
  | same => rfl
  | objects hid hway hway' hnodes hnodes' halike =>
    rcases halike.tags with ⟨hnone, -⟩ | ⟨t, u, ht, hu, hindistinct⟩
    · rw [Tags.ofJson?_object] at hnone
      cases hnone
    · obtain rfl := Option.some.inj ((Tags.ofJson?_object _).symm.trans ht)
      obtain rfl := Option.some.inj ((Tags.ofJson?_object _).symm.trans hu)
      have hround := Profile.isRoundabout_eq_of_agreeOn hindistinct.agree
      rw [rowRecord_of_loaded (loadRow_of_holds hway hnodes),
        rowRecord_of_loaded (loadRow_of_holds hway' hnodes'), hid, hround,
        verdict_eq_of_indistinct hferry hindistinct, access_eq_of_indistinct hferry hindistinct,
        unsettled, unsettled, hround]

theorem rowRecords_eq_of_alike (hferry : c.isFerry = Tags.isFerry) {columns : List String}
    {rows rows' : List (List Json)} (h : List.Forall₂ (RowsAlike c.profile columns) rows rows')
    (position : Nat) :
    c.rowRecords columns position rows = c.rowRecords columns position rows' := by
  induction h generalizing position with
  | nil => rfl
  | cons hrow _ ih =>
    rw [rowRecords, rowRecords, rowRecord_eq_of_alike hferry hrow, ih]

/-- **Tables whose rows are not told apart come out equal.** -/
theorem classifyTable_eq_of_alike (hferry : c.isFerry = Tags.isFerry) {table table' : WayTable}
    (hcolumns : table.columns = table'.columns)
    (h : List.Forall₂ (RowsAlike c.profile table.columns) table.rows table'.rows) :
    (c.classifyTable table).result = (c.classifyTable table').result := by
  have hmissing : table.missingColumns = table'.missingColumns := by
    rw [missingColumns, hcolumns, missingColumns]
  by_cases hnone : table.missingColumns = []
  · rw [result_classifyTable hnone, result_classifyTable (hmissing ▸ hnone), ← hcolumns,
      rowRecords_eq_of_alike hferry h]
  · rw [result_classifyTable_of_missing hnone,
      result_classifyTable_of_missing (hmissing ▸ hnone), hmissing]

end Classifier

/-! ### Edges of a graph -/

/-- An edge carries ways with nodes that are not told apart in two graphs. -/
def Graph.EdgesAlike (p : Profile) (g g' : Graph) (e : GraphEdge) : Prop :=
  p.Alike ((g.attribute? e Classifier.tagsAttribute).getD .null)
    ((g.attribute? e Classifier.nodesAttribute).getD .null)
    ((g'.attribute? e Classifier.tagsAttribute).getD .null)
    ((g'.attribute? e Classifier.nodesAttribute).getD .null)

namespace Classifier

open RoadAccess.Graph EdgewiseStore

variable {c : Classifier} {g g' : Graph} {e : GraphEdge}

/-- The nodes that annotation finds are not told apart either: they are those of the edge, or the
    roundabout flag in their place. -/
theorem indistinct_nodesRead {t u : Tags}
    (h : c.profile.Indistinct t ((g.attribute? e nodesAttribute).getD .null) u
      ((g'.attribute? e nodesAttribute).getD .null)) :
    c.profile.Indistinct t (c.nodesRead g e t) u (c.nodesRead g' e u) := by
  have hround := Profile.isRoundabout_eq_of_agreeOn h.agree
  refine ⟨h.agree, h.barrier, fun hbarrier => ?_⟩
  rw [nodesRead, nodesRead, attribute?_setFlag, attribute?_setFlag, hround]
  split
  · exact .same _
  · exact h.nodes hbarrier

/-- Whatever the graph, the attributes of flags end as they are written. -/
theorem attribute?_flags_eq (g g' : Graph) (e : GraphEdge) (roundabout : Bool) (d : Directions)
    {name : String} (hname : name ∈ c.flagAttributes) :
    (c.mark (g.setFlag (c.roundaboutSlot e) roundabout) e d).attribute? e name =
      (c.mark (g'.setFlag (c.roundaboutSlot e) roundabout) e d).attribute? e name := by
  rw [attribute?_mark_setFlag, attribute?_mark_setFlag]
  by_cases hbackward : name = attributeName c.accessKey true
  · rw [if_pos hbackward, if_pos hbackward]
  · rw [if_neg hbackward, if_neg hbackward]
    by_cases hforward : name = attributeName c.accessKey false
    · rw [if_pos hforward, if_pos hforward]
    · have hround : name = attributeName c.roundaboutKey false := by
        simpa [flagAttributes, hbackward, hforward] using hname
      rw [if_neg hforward, if_neg hforward, if_pos hround, if_pos hround]

/-- An edge that carries such ways is annotated in both graphs or in neither, and gets the same
    flags. -/
theorem annotateEdge_eq_of_alike (hferry : c.isFerry = Tags.isFerry)
    (h : EdgesAlike c.profile g g' e) :
    (c.annotateEdge g e).result = (c.annotateEdge g' e).result ∧
      ∀ a, (c.annotateEdge g e).result = .ok a → ∀ name ∈ c.flagAttributes,
        (c.annotateEdge g e).state.attribute? e name =
          (c.annotateEdge g' e).state.attribute? e name := by
  rcases h.tags with ⟨hw, hw'⟩ | ⟨t, u, hw, hw', hindistinct⟩
  · rw [annotateEdge_of_unreadable hw, annotateEdge_of_unreadable hw']
    exact ⟨rfl, nofun⟩
  · have hround := Profile.isRoundabout_eq_of_agreeOn hindistinct.agree
    have hfound := verdict_eq_of_indistinct hferry (indistinct_nodesRead hindistinct) t.isRoundabout
    constructor
    · rw [result_annotateEdge_of_tags hw, result_annotateEdge_of_tags hw', hfound, hround,
        access_eq_of_indistinct hferry hindistinct]
    · intro a ha name hname
      rw [result_annotateEdge_of_tags hw] at ha
      obtain ⟨pair, hv, -⟩ := Outcome.ok_of_map ha
      have hv' := hv
      rw [hfound, hround] at hv'
      rw [state_annotateEdge_of_tags hw hv, state_annotateEdge_of_tags hw' hv', hround]
      exact attribute?_flags_eq g g' e u.isRoundabout _ hname

/-- The edges of graphs that carry such ways are annotated one after the other in both graphs, up to
    the first that fails in both. -/
theorem annotateEdges_eq_of_alike (hferry : c.isFerry = Tags.isFerry) {es : List GraphEdge}
    (hes : es.Nodup) (h : ∀ e ∈ es, EdgesAlike c.profile g g' e) :
    (c.annotateEdges g es).result = (c.annotateEdges g' es).result := by
  induction es generalizing g g' with
  | nil => rfl
  | cons first es ih =>
    obtain ⟨hfirst, hrest⟩ := List.nodup_cons.1 hes
    rw [List.forall_mem_cons] at h
    obtain ⟨hhead, h⟩ := h
    obtain ⟨hresult, -⟩ := annotateEdge_eq_of_alike hferry hhead
    -- The later edges still carry what they carried before the first one was annotated.
    have hkept : ∀ (g : Graph), ∀ e ∈ es,
        (c.annotateEdge g first).state.attribute? e = g.attribute? e := fun g e he =>
      (Prod.mk.inj ((local_annotateEdge c first).update.content_of_ne g
        fun heq => hfirst (heq ▸ he))).2
    have hcarried : ∀ e ∈ es, EdgesAlike c.profile (c.annotateEdge g first).state
        (c.annotateEdge g' first).state e := by
      intro e he
      rw [EdgesAlike, hkept g e he, hkept g' e he]
      exact h e he
    have hlater := ih hrest hcarried
    rw [annotateEdges, annotateEdges]
    cases ha : (c.annotateEdge g first).result with
    | error f =>
      rw [Outcome.andThen_of_error ha, Outcome.andThen_of_error (hresult ▸ ha)]
    | ok a =>
      rw [Outcome.andThen_of_ok ha, Outcome.andThen_of_ok (hresult ▸ ha)]
      exact congrArg (Except.map (a :: ·)) hlater

/-- **Graphs whose edges are not told apart are annotated alike.** -/
theorem annotate_eq_of_alike (hferry : c.isFerry = Tags.isFerry) (hg : g.Simple)
    (hedges : g.edges = g'.edges) (h : ∀ e ∈ g.edges, EdgesAlike c.profile g g' e) :
    (c.annotate g).result = (c.annotate g').result := by
  rw [result_annotate, result_annotate, ← hedges,
    annotateEdges_eq_of_alike hferry (Graph.nodup_edges hg) h]

/-- Every edge of an annotated graph is as its own annotation leaves it. -/
theorem attribute?_annotate {tally : Tally} (hg : g.Simple) (h : (c.annotate g).result = .ok tally)
    (he : e ∈ g.edges) :
    (∃ a, (c.annotateEdge g e).result = .ok a) ∧
      (c.annotate g).state.attribute? e = (c.annotateEdge g e).state.attribute? e := by
  rw [result_annotate] at h
  obtain ⟨outcomes, hrun, -⟩ := Outcome.ok_of_map h
  have hnodup := Graph.nodup_edges hg
  obtain ⟨hall, -⟩ := (annotateEdges_eq_ok_iff hnodup).1 hrun
  have hcontent := content_foldl_of_mem (local_annotateEdge c) (by rwa [List.map_id']) he g
  rw [state_annotate, state_annotateEdges hrun]
  exact ⟨⟨_, hall e he⟩, (Prod.mk.inj hcontent).2⟩

/-- Every edge then has the same flags in both graphs. -/
theorem flags_annotate_eq_of_alike (hferry : c.isFerry = Tags.isFerry) {tally : Tally}
    (hg : g.Simple) (hg' : g'.Simple) (hedges : g.edges = g'.edges)
    (h : ∀ e ∈ g.edges, EdgesAlike c.profile g g' e) (hok : (c.annotate g).result = .ok tally)
    (he : e ∈ g.edges) {name : String} (hname : name ∈ c.flagAttributes) :
    (c.annotate g).state.attribute? e name = (c.annotate g').state.attribute? e name := by
  obtain ⟨⟨a, ha⟩, hstate⟩ := attribute?_annotate hg hok he
  obtain ⟨-, hstate'⟩ :=
    attribute?_annotate hg' (annotate_eq_of_alike hferry hg hedges h ▸ hok) (hedges ▸ he)
  rw [hstate, hstate']
  exact (annotateEdge_eq_of_alike hferry (h e he)).2 a ha name hname

end Classifier

/-! ### The whole -/

/-- **Undocumented tags make no difference.**  Let ferries be told by their tags.  Ways and nodes that no
    documented tag tells apart are handled alike on every edge of every store, with the same answer and
    the same store after it; tables whose rows are not told apart are classified with equal results; and
    so are graphs whose edges are not told apart, which also get the same flags on every edge.  Nodes
    make no difference at all to a way that does not stand for a point barrier. -/
theorem documented_tags_decide {σ ε : Type} [DecidableEq ε] [FlagStore σ ε] [LawfulFlagStore σ ε]
    (c : Classifier) (hferry : c.isFerry = Tags.isFerry) :
    (∀ way nodes way' nodes' : Json, c.profile.Alike way nodes way' nodes' → ∀ (s : σ) (e : ε),
      (c.handle s e way nodes).result = (c.handle s e way' nodes').result ∧
        (c.handle s e way nodes).state = (c.handle s e way' nodes').state) ∧
    (∀ table table' : WayTable, table.columns = table'.columns →
      List.Forall₂ (RowsAlike c.profile table.columns) table.rows table'.rows →
      (c.classifyTable table).result = (c.classifyTable table').result) ∧
    (∀ g g' : Graph, g.Simple → g'.Simple → g.edges = g'.edges →
      (∀ e ∈ g.edges, Graph.EdgesAlike c.profile g g' e) →
      (c.annotate g).result = (c.annotate g').result ∧
        ∀ tally, (c.annotate g).result = .ok tally →
          ∀ e ∈ g.edges, ∀ name ∈ c.flagAttributes,
            (c.annotate g).state.attribute? e name = (c.annotate g').state.attribute? e name) ∧
    ∀ fields, Json.labelAt? fields Classifier.barrierEdgeTag = none →
      ∀ (nodes nodes' : Json) (s : σ) (e : ε),
        c.handle s e (.object fields) nodes = c.handle s e (.object fields) nodes' := by
  refine ⟨?_, ?_, ?_, ?_⟩
  · intro way nodes way' nodes' h s e
    exact Classifier.handle_eq_of_alike hferry h s e
  · intro table table' hcolumns hrows
    exact Classifier.classifyTable_eq_of_alike hferry hcolumns hrows
  · intro g g' hg hg' hedges h
    refine ⟨Classifier.annotate_eq_of_alike hferry hg hedges h, ?_⟩
    intro tally hok e he name hname
    exact Classifier.flags_annotate_eq_of_alike hferry hg hg' hedges h hok he hname
  · intro fields h nodes nodes' s e
    exact c.handle_eq_of_no_barrier_tag h s e nodes nodes'

/-- A path through a fence, told once with its name and the age of the fence and once with its surface,
    in another order and with one more node. -/
theorem documented_tags_decide_at_fence :
    let c : Classifier := {}
    let way := Json.object
      [("highway", .text "path"), ("barrier_edge", .text "yes"), ("name", .text "Rua")]
    let way' := Json.object
      [("barrier_edge", .int 1), ("surface", .text "mud"), ("highway", .text "path")]
    let nodes := Json.array [.object [("barrier", .text "fence"), ("age", .int 9)]]
    let nodes' := Json.array [.object [("barrier", .text "fence")], .object []]
    let columns := ["way_id", "tags", "node_tags"]
    c.isFerry = Tags.isFerry ∧ c.profile.Alike way nodes way' nodes' ∧
      (c.handle FlagTable.empty (.int 1) way nodes).state =
        (c.handle FlagTable.empty (.int 1) way' nodes').state ∧
      (c.handle FlagTable.empty (.int 1) way' nodes').result = .ok .routable ∧
      (c.classifyTable ⟨columns, [[.int 7, way, nodes], [.int 8, .int 5, .null]]⟩).result =
        (c.classifyTable ⟨columns, [[.int 7, way', nodes'], [.int 8, .int 5, .null]]⟩).result := by
  intro c way way' nodes nodes' columns
  have halike : c.profile.Alike way nodes way' nodes' :=
    .objects (by decide +kernel) rfl fun _ => .first [] [.object []] (.objects (by decide +kernel))
  obtain ⟨hhandle, htables, -, -⟩ :=
    @documented_tags_decide FlagTable Identifier _ _ _ c rfl
  obtain ⟨hresult, hstate⟩ := hhandle way nodes way' nodes' halike .empty (.int 1)
  refine ⟨rfl, halike, hstate, hresult.symm.trans (by decide +kernel), htables _ _ rfl ?_⟩
  refine .cons ?_ (.cons (.same _) .nil)
  exact .objects rfl (.value _) (.value _) (.inl (.value _)) (.inl (.value _)) halike

end RoadAccess
