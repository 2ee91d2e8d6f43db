import Mathlib.Algebra.BigOperators.Group.List.Lemmas
import RoadAccess.Proofs.Order

namespace RoadAccess

/-!
# Annotating a graph twice

Annotation reads the tags of the ways and nodes and writes flags under other names, so what it writes
never comes back to it: a second annotation finds every flag as it would write it.

* `Graph.shape` — the nodes and edges of a graph in their order;
  `Classifier.shape_annotateEdges` — annotation keeps them;
* `Classifier.Annotated` — an edge as annotation leaves it; `Classifier.annotated_annotateEdges` — the
  edges of a run that succeeds are so;
* `Classifier.annotateEdge_of_annotated`, `Classifier.annotateEdges_of_annotated` — such edges can be
  annotated again, and nothing changes;
* `Classifier.stopped_of_error`, `Classifier.annotateEdges_of_error` — a run that fails has annotated
  the edges before the failing one and none of those after it;
* `Tally.mem_ofList_iff`, `Tally.total_ofList` — a tally lists the outcomes that occur, and counts them
  all;
* `annotate_idempotent` — the whole.
-/

/-! ### Nodes and edges -/

namespace Graph

variable {g : Graph} {e : GraphEdge}

/-- The nodes of a graph, each with the targets of its out-edges, in order. -/
def shape (g : Graph) : List (Identifier × List Identifier) := g.nodes.map (Prod.map id Keyed.keys)

theorem keys_nodes_eq_shape (g : Graph) : Keyed.keys g.nodes = g.shape.map Prod.fst := by
  simp [shape, Keyed.keys]

theorem edges_eq_shape (g : Graph) :
    g.edges = g.shape.flatMap fun (u, targets) => targets.map fun v => (u, v) := by
  simp [shape, edges, Keyed.keys, List.flatMap_map, Function.comp_def]

/-- The node of an edge that is there is listed with its out-edges. -/
theorem lookup_nodes_of_attributes? {as : Attributes} (h : g.attributes? e = some as) :
    g.nodes.lookup e.1 = some (g.out e.1) := by
  rw [attributes?, out] at h
  cases hu : g.nodes.lookup e.1 with
  | none =>
    rw [hu] at h
    cases h
  | some targets => rw [out, hu, Option.getD_some]

/-- New attributes of an edge that is there leave the nodes and the edges as they are. -/
theorem shape_setAttributes (h : g.hasEdge e = true) (as : Attributes) :
    (g.setAttributes e as).shape = g.shape := by
  obtain ⟨bs, hbs⟩ := Option.isSome_iff_exists.1 h
  have htargets : Keyed.keys (Keyed.put (g.out e.1) e.2 as) = Keyed.keys (g.out e.1) := by
    rw [Keyed.keys_put, if_pos ((Keyed.lookup_isSome_iff _ _).1 h)]
  exact Keyed.map_put_of_lookup Keyed.keys (lookup_nodes_of_attributes? hbs) htargets

/-- An attribute that is there already can be written again. -/
theorem setAttribute_of_attribute? {name : String} {v : Json} (h : g.attribute? e name = some v) :
    g.setAttribute e name v = g := by
  obtain ⟨as, has, hv⟩ := Option.bind_eq_some_iff.1 h
  rw [setAttribute, has, Option.getD_some, Keyed.put_of_lookup hv, setAttributes,
    Keyed.put_of_lookup has, Keyed.put_of_lookup (lookup_nodes_of_attributes? has)]

end Graph

namespace Classifier

open RoadAccess.Graph EdgewiseStore

variable {c : Classifier} {g g' : Graph} {e : GraphEdge}

/-- Annotating edges that are there keeps the nodes and the edges. -/
theorem shape_annotateEdges {es : List GraphEdge} (h : ∀ e ∈ es, g.hasEdge e = true) :
    (c.annotateEdges g es).state.shape = g.shape := by
  -- The edges stay there, so no write adds one.
  have hkept : (c.annotateEdges g es).state.shape = g.shape ∧
      ∀ e ∈ es, (c.annotateEdges g es).state.hasEdge e = true := by
    refine annotateEdges_keeps
      (P := fun g' => g'.shape = g.shape ∧ ∀ e ∈ es, g'.hasEdge e = true) ?_ ⟨rfl, h⟩
    rintro g' slot b he - ⟨hshape, hthere⟩
    refine ⟨(shape_setAttributes (hthere _ he) _).trans hshape, fun e' he' => ?_⟩
    rw [setFlag, hasEdge_setAttribute, hthere e' he', Bool.or_true]
  exact hkept.1

/-- Writing a flag keeps all attributes of any other edge. -/
theorem attributes?_setFlag_of_ne (g : Graph) {slot : Slot GraphEdge} (h : e ≠ slot.edge) (b : Bool) :
    (g.setFlag slot b).attributes? e = g.attributes? e := by
  rw [setFlag, setAttribute, attributes?_setAttributes, if_neg h]

theorem attributes?_annotateEdge (g : Graph) {e' : GraphEdge} (h : e' ≠ e) :
    (c.annotateEdge g e).state.attributes? e' = g.attributes? e' := by
  refine annotateEdge_keeps (P := fun g' => g'.attributes? e' = g.attributes? e')
    (fun g' slot b he _ hkept => ?_) rfl
  rw [attributes?_setFlag_of_ne g' fun heq => h (heq.trans he), hkept]

/-- So does annotating edges. -/
theorem attributes?_annotateEdges {es : List GraphEdge} (g : Graph) (h : e ∉ es) :
    (c.annotateEdges g es).state.attributes? e = g.attributes? e := by
  refine annotateEdges_keeps (P := fun g' => g'.attributes? e = g.attributes? e)
    (fun g' slot b he _ hkept => ?_) rfl
  rw [attributes?_setFlag_of_ne g' fun heq : e = _ => h (heq ▸ he), hkept]

/-- Whatever is kept for an edge is among its attributes. -/
theorem content_eq_of_attributes? (h : g.attributes? e = g'.attributes? e) :
    content g e = content g' e := by
  refine Prod.ext ?_ (funext fun name => ?_)
  · show (g.attributes? e).isSome = _
    rw [h]
    rfl
  · show (g.attributes? e).bind _ = _
    rw [h]
    rfl

/-! ### Annotated edges -/

/-- An edge as annotation leaves it: its flags are those that its own tags and nodes give, and its
    other attributes are those that it had. -/
structure Annotated (c : Classifier) (g g' : Graph) (e : GraphEdge) (t : Tags) (d : Directions) :
    Prop where
  tags : Tags.ofJson? ((g.attribute? e tagsAttribute).getD .null) = some t
  verdict : ∃ pair, pair.getD .closed = d ∧
    c.verdict t.isRoundabout t ((g.attribute? e nodesAttribute).getD .null) = .ok pair
  roundabout : g'.attribute? e (attributeName c.roundaboutKey false) = some (.bool t.isRoundabout)
  forward : g'.attribute? e (attributeName c.accessKey false) = some (.bool d.forward)
  backward : g'.attribute? e (attributeName c.accessKey true) = some (.bool d.backward)
  others : ∀ name ∉ c.flagAttributes, g'.attribute? e name = g.attribute? e name

theorem Annotated.flags {t : Tags} {d : Directions} (h : c.Annotated g g' e t d) {name : String}
    (hname : name ∈ c.flagAttributes) : ∃ b, g'.attribute? e name = some (.bool b) := by
  simp only [flagAttributes, List.mem_cons, List.not_mem_nil, or_false] at hname
  rcases hname with rfl | rfl | rfl
  · exact ⟨_, h.roundabout⟩
  · exact ⟨_, h.forward⟩
  · exact ⟨_, h.backward⟩

/-- It depends on the attributes of the edge alone. -/
theorem Annotated.congr {g'' : Graph} {t : Tags} {d : Directions} (h : c.Annotated g g' e t d)
    (hsame : g''.attribute? e = g'.attribute? e) : c.Annotated g g'' e t d where
  tags := h.tags
  verdict := h.verdict
  roundabout := hsame ▸ h.roundabout
  forward := hsame ▸ h.forward
  backward := hsame ▸ h.backward
  others := hsame ▸ h.others

/-- **One edge.**  Under names that are apart, an edge that is annotated keeps its three flags. -/
theorem annotated_annotateEdge (hflags : c.flagAttributes.Nodup)
    (hnodes : nodesAttribute ∉ c.flagAttributes) {a : Access}
    (h : (c.annotateEdge g e).result = .ok a) :
    ∃ t d, c.Annotated g (c.annotateEdge g e).state e t d := by
  obtain ⟨t, pair, hway, hv⟩ := verdict_of_annotateEdge hnodes h
  have hstate := attribute?_mark_setFlag c g e t.isRoundabout (pair.getD .closed)
  rw [← state_annotateEdge hnodes hway hv] at hstate
  have hne : attributeName c.roundaboutKey false ≠ attributeName c.accessKey false ∧
      attributeName c.roundaboutKey false ≠ attributeName c.accessKey true := by
    simpa [flagAttributes] using (List.nodup_cons.1 hflags).1
  refine ⟨t, pair.getD .closed, hway, ⟨pair, rfl, hv⟩, ?_, ?_, ?_, fun name hname =>
    attribute?_annotateEdge g fun _ => hname⟩
  · rw [hstate, if_neg hne.2, if_neg hne.1, if_pos rfl]
  · rw [hstate, if_neg (attributeName_true_ne _).symm, if_pos rfl]
  · rw [hstate, if_pos rfl]

/-- **A run.**  After a run over different edges each of them has its three flags. -/
theorem annotated_annotateEdges (hflags : c.flagAttributes.Nodup)
    (hnodes : nodesAttribute ∉ c.flagAttributes) {es : List GraphEdge} (hes : es.Nodup)
    {outcomes : List Access} (h : (c.annotateEdges g es).result = .ok outcomes) (he : e ∈ es) :
    ∃ t d, c.Annotated g (c.annotateEdges g es).state e t d := by
  obtain ⟨hall, -⟩ := (annotateEdges_eq_ok_iff hes).1 h
  obtain ⟨t, d, hown⟩ := annotated_annotateEdge hflags hnodes (hall e he)
  -- The edge is as its own annotation leaves it.
  have hcontent := content_foldl_of_mem (local_annotateEdge c) (by rwa [List.map_id']) he g
  rw [← state_annotateEdges h] at hcontent
  exact ⟨t, d, hown.congr (Prod.mk.inj hcontent).2⟩

/-! ### The second time -/

/-- An annotated edge can be annotated again, and nothing changes. -/
theorem annotateEdge_of_annotated (htags : tagsAttribute ∉ c.flagAttributes)
    (hnodes : nodesAttribute ∉ c.flagAttributes) {t : Tags} {d : Directions}
    (h : c.Annotated g g' e t d) :
    (c.annotateEdge g' e).result = .ok (c.wayAccess g e) ∧ (c.annotateEdge g' e).state = g' := by
  obtain ⟨pair, rfl, hv⟩ := h.verdict
  have hway := h.tags
  rw [← h.others _ htags] at hway
  rw [← h.others _ hnodes] at hv
  have hround : g'.setFlag (c.roundaboutSlot e) t.isRoundabout = g' :=
    setAttribute_of_attribute? h.roundabout
  have hmark : c.mark g' e (pair.getD .closed) = g' := by
    have hforward : g'.setFlag (c.accessSlot e false) (pair.getD .closed).forward = g' :=
      setAttribute_of_attribute? h.forward
    show (g'.setFlag (c.accessSlot e false) _).setFlag (c.accessSlot e true) _ = g'
    rw [hforward]
    exact setAttribute_of_attribute? h.backward
  constructor
  · rw [result_annotateEdge hnodes hway, hv, wayAccess, h.tags]
    rfl
  · rw [state_annotateEdge hnodes hway hv, hround, hmark]

/-- So can a whole run of them. -/
theorem annotateEdges_of_annotated (htags : tagsAttribute ∉ c.flagAttributes)
    (hnodes : nodesAttribute ∉ c.flagAttributes) {es : List GraphEdge}
    (h : ∀ e ∈ es, ∃ t d, c.Annotated g g' e t d) :
    (c.annotateEdges g' es).result = .ok (es.map (c.wayAccess g)) ∧
      (c.annotateEdges g' es).state = g' := by
  induction es with
  | nil => exact ⟨rfl, rfl⟩
  | cons e es ih =>
    rw [List.forall_mem_cons] at h
    obtain ⟨⟨t, d, he⟩, hes⟩ := h
    obtain ⟨hresult, hstate⟩ := annotateEdge_of_annotated htags hnodes he
    obtain ⟨hlater, hend⟩ := ih hes
    rw [annotateEdges, Outcome.andThen_of_ok hresult, hstate]
    exact ⟨congrArg (Except.map _) hlater, hend⟩

/-! ### A run that fails -/

/-- A run that fails has succeeded on the edges before the failing one, and stops there. -/
theorem stopped_of_error {es : List GraphEdge} {f : Fault}
    (h : (c.annotateEdges g es).result = .error f) :
    ∃ before e after outcomes, es = before ++ e :: after ∧
      (c.annotateEdges g before).result = .ok outcomes ∧
      (c.annotateEdge (c.annotateEdges g before).state e).result = .error f ∧
      (c.annotateEdges g es).state =
        (c.annotateEdge (c.annotateEdges g before).state e).state := by
  induction es generalizing g with
  | nil => cases h
  | cons e es ih =>
    cases ha : (c.annotateEdge g e).result with
    | error f' =>
      rw [annotateEdges, Outcome.andThen_of_error ha] at h ⊢
      obtain rfl := Except.error.inj h
      exact ⟨[], e, es, [], rfl, rfl, ha, rfl⟩
    | ok a =>
      rw [annotateEdges, Outcome.andThen_of_ok ha] at h ⊢
      obtain ⟨before, e', after, outcomes, rfl, hbefore, hfails, hstate⟩ := ih (Outcome.error_of_map h)
      refine ⟨e :: before, e', after, a :: outcomes, rfl, ?_, ?_, ?_⟩
      all_goals rw [annotateEdges, Outcome.andThen_of_ok ha]
      · exact congrArg (Except.map _) hbefore
      · exact hfails
      · exact hstate

/-- **A run that fails.**  It fails at an edge that cannot be annotated by itself; the edges before it
    have their three flags, and those after it are as they were. -/
theorem annotateEdges_of_error (hflags : c.flagAttributes.Nodup)
    (hnodes : nodesAttribute ∉ c.flagAttributes) {es : List GraphEdge} (hes : es.Nodup) {f : Fault}
    (h : (c.annotateEdges g es).result = .error f) :
    ∃ before e after, es = before ++ e :: after ∧ (c.annotateEdge g e).result = .error f ∧
      (∀ e' ∈ before, ∃ t d, c.Annotated g (c.annotateEdges g es).state e' t d) ∧
      ∀ e' ∈ after, (c.annotateEdges g es).state.attributes? e' = g.attributes? e' := by
  obtain ⟨before, e, after, outcomes, rfl, hbefore, hfails, hstate⟩ := stopped_of_error h
  obtain ⟨hbefores, hrest, hapart⟩ := List.nodup_append.1 hes
  have hfresh : ∀ e' ∈ e :: after, e' ∉ before := fun e' he' hmem => hapart e' hmem e' he' rfl
  refine ⟨before, e, after, rfl, ?_, fun e' he' => ?_, fun e' he' => ?_⟩
  · -- The failing edge is as it was when the run came to it.
    have hkept := attributes?_annotateEdges (c := c) g (hfresh e List.mem_cons_self)
    have hcontent : content (c.annotateEdges g before).state e = content g e :=
      content_eq_of_attributes? hkept
    rw [← (local_annotateEdge c e).result_eq hcontent]
    exact hfails
  · have hne : e' ≠ e := fun heq => hfresh e List.mem_cons_self (heq ▸ he')
    obtain ⟨t, d, hown⟩ := annotated_annotateEdges hflags hnodes hbefores hbefore he'
    refine ⟨t, d, hown.congr (funext fun name => ?_)⟩
    rw [hstate]
    exact attribute?_annotateEdge _ fun heq => absurd heq hne
  · have hne : e' ≠ e := fun heq => (List.nodup_cons.1 hrest).1 (heq ▸ he')
    rw [hstate, attributes?_annotateEdge _ hne]
    exact attributes?_annotateEdges g (hfresh e' (List.mem_cons_of_mem _ he'))

end Classifier

/-! ### Tallies -/

namespace Tally

/-- A tally lists the outcomes that occur, with the number of times that they do. -/
theorem mem_ofList_iff (outcomes : List Access) (a : Access) (n : Nat) :
    (a, n) ∈ ofList outcomes ↔ 0 < n ∧ outcomes.count a = n := by
  simp only [ofList, List.mem_map, List.mem_eraseDups, Prod.mk.injEq]
  constructor
  · rintro ⟨b, hb, rfl, rfl⟩
    exact ⟨List.count_pos_iff.2 hb, rfl⟩
  · rintro ⟨hn, rfl⟩
    exact ⟨a, List.count_pos_iff.1 hn, rfl, rfl⟩

/-- It lists every outcome once. -/
theorem nodup_keys_ofList (outcomes : List Access) : (Keyed.keys (ofList outcomes)).Nodup := by
  have hkeys : Keyed.keys (ofList outcomes) = outcomes.eraseDups := by
    simp [Keyed.keys, ofList, Function.comp_def]
  rw [hkeys]
  exact nodup_eraseDups outcomes

/-- How many outcomes a tally counts. -/
def total : Tally → Nat
  | [] => 0
  | (_, n) :: entries => n + total entries

/-- It counts all outcomes. -/
theorem total_ofList (outcomes : List Access) : total (ofList outcomes) = outcomes.length := by
  have hsum : ∀ tally : Tally, total tally = (tally.map Prod.snd).sum := by
    intro tally
    induction tally with
    | nil => rfl
    | cons entry entries ih =>
      rw [total, ih, List.map_cons, List.sum_cons]
  have hperm : outcomes.eraseDups.Perm outcomes.dedup := by
    refine (List.perm_ext_iff_of_nodup (nodup_eraseDups _) outcomes.nodup_dedup).2 fun a => ?_
    rw [List.mem_eraseDups, List.mem_dedup]
  have hcounts : (ofList outcomes).map Prod.snd = outcomes.eraseDups.map fun a => outcomes.count a := by
    simp [ofList, Function.comp_def]
  rw [hsum, hcounts, (hperm.map _).sum_eq]
  exact List.sum_map_count_dedup_eq_length outcomes

end Tally

/-! ### The whole -/

open Classifier RoadAccess.Graph in
/-- **Annotation is idempotent and touches its flags only.**  The attributes of the three flags are
    three, and neither the tags of the ways nor those of the nodes are kept under their names.  Then an
    annotation that succeeds keeps the nodes and the edges in their order and every other attribute; it
    leaves every edge with the three flags, as its own tags and nodes give them; its tally lists the
    outcomes that occur, once each and with their numbers, which add up to the number of edges; and a
    second annotation answers the same and changes nothing.  An annotation that fails does so at an edge
    that cannot be annotated; every edge before it is as annotation leaves it, every edge after it is as
    it was, and nodes, edges and all other attributes are as they were. -/
theorem annotate_idempotent (c : Classifier) (hflags : c.flagAttributes.Nodup)
    (htags : tagsAttribute ∉ c.flagAttributes) (hnodes : nodesAttribute ∉ c.flagAttributes)
    (g : Graph) (hg : g.Simple) :
    let g' := (c.annotate g).state
    Keyed.keys g'.nodes = Keyed.keys g.nodes ∧ g'.edges = g.edges ∧
    (∀ e, ∀ name ∉ c.flagAttributes, g'.attribute? e name = g.attribute? e name) ∧
    (∀ tally, (c.annotate g).result = .ok tally →
      (∀ e ∈ g.edges, (∃ t d, c.Annotated g g' e t d) ∧
        ∀ name ∈ c.flagAttributes, ∃ b, g'.attribute? e name = some (.bool b)) ∧
      (Keyed.keys tally).Nodup ∧
      (∀ a n, (a, n) ∈ tally ↔ 0 < n ∧ (g.edges.countP fun e => c.wayAccess g e = a) = n) ∧
      tally.total = g.edges.length ∧
      (c.annotate g').result = .ok tally ∧ (c.annotate g').state = g') ∧
    ∀ f, (c.annotate g).result = .error f →
      ∃ before e after, g.edges = before ++ e :: after ∧
        (c.annotateEdge g e).result = .error f ∧
        (∀ e' ∈ before, ∃ t d, c.Annotated g g' e' t d) ∧
        ∀ e' ∈ after, g'.attributes? e' = g.attributes? e' := by
  intro g'
  have hnodup := nodup_edges hg
  have hstate : g' = (c.annotateEdges g g.edges).state := state_annotate c g
  have hshape : g'.shape = g.shape := by
    rw [hstate]
    exact shape_annotateEdges fun e he => (mem_edges_iff hg e).1 he
  have hedges : g'.edges = g.edges := by rw [edges_eq_shape, hshape, ← edges_eq_shape]
  refine ⟨by rw [keys_nodes_eq_shape, hshape, ← keys_nodes_eq_shape], hedges, ?_, ?_, ?_⟩
  · intro e name hname
    rw [hstate]
    exact attribute?_annotateEdges g fun _ => hname
  · intro tally h
    rw [result_annotate] at h
    obtain ⟨outcomes, hrun, rfl⟩ := Outcome.ok_of_map h
    obtain rfl := outcomes_annotateEdges htags hrun
    have hall : ∀ e ∈ g.edges, ∃ t d, c.Annotated g g' e t d := by
      intro e he
      rw [hstate]
      exact annotated_annotateEdges hflags hnodes hnodup hrun he
    obtain ⟨hagain, hsame⟩ := annotateEdges_of_annotated htags hnodes hall
    refine ⟨fun e he => ⟨hall e he, fun name hname => ?_⟩, Tally.nodup_keys_ofList _, ?_, ?_, ?_, ?_⟩
    · obtain ⟨t, d, hown⟩ := hall e he
      exact hown.flags hname
    · intro a n
      rw [Tally.mem_ofList_iff, List.count_eq_countP, List.countP_map]
      rfl
    · rw [Tally.total_ofList, List.length_map]
    · rw [result_annotate, hedges, hagain, Except.map]
    · rw [state_annotate, hedges, hsame]
  · intro f h
    rw [result_annotate] at h
    rw [hstate]
    exact annotateEdges_of_error hflags hnodes hnodup (Outcome.error_of_map h)

open Classifier RoadAccess.Graph in
/-- A street with an old flag and a ferry, annotated twice; and the same two before an edge whose tags
    are a number and another street, where annotation stops at the number. -/
theorem annotate_idempotent_on_streets :
    let c : Classifier := {}
    let street := Json.object [("highway", .text "tertiary"), ("junction", .text "roundabout")]
    let ferry := Json.object [("route", .text "ferry")]
    let g := (Graph.empty.addEdge (.int 1, .int 2) [("tags", street), ("roundabout", .int 0)]).addEdge
      (.int 2, .int 3) [("tags", ferry)]
    let bad := (g.addEdge (.int 3, .int 4) [("tags", .int 7)]).addEdge (.int 4, .int 5)
      [("tags", street)]
    c.flagAttributes.Nodup ∧ tagsAttribute ∉ c.flagAttributes ∧ nodesAttribute ∉ c.flagAttributes ∧
      g.Simple ∧ bad.Simple ∧
      (c.annotate g).result = .ok [(.routable, 1), (.ferry, 1)] ∧
      (c.annotate (c.annotate g).state).result = .ok [(.routable, 1), (.ferry, 1)] ∧
      (c.annotate (c.annotate g).state).state = (c.annotate g).state ∧
      (c.annotate g).state.flag ⟨"roundabout", (.int 1, .int 2), false⟩ = true ∧
      (c.annotate bad).result = .error .tagsNotObject ∧
      ∃ before e after, bad.edges = before ++ e :: after ∧
        (c.annotateEdge bad e).result = .error .tagsNotObject ∧
        (∀ e' ∈ before, ∃ t d, c.Annotated bad (c.annotate bad).state e' t d) ∧
        ∀ e' ∈ after, (c.annotate bad).state.attributes? e' = bad.attributes? e' := by
  intro c street ferry g bad
  have hflags : c.flagAttributes.Nodup := by decide
  have htags : tagsAttribute ∉ c.flagAttributes := by decide
  have hnodes : nodesAttribute ∉ c.flagAttributes := by decide
  have hg : g.Simple := simple_addEdge (simple_addEdge simple_empty ..) ..
  have hbad : bad.Simple := simple_addEdge (simple_addEdge hg ..) ..
  have hok : (c.annotate g).result = .ok [(.routable, 1), (.ferry, 1)] := by decide +kernel
  have hround : (c.annotate g).state.flag ⟨"roundabout", (.int 1, .int 2), false⟩ = true := by
    decide +kernel
  have hfails : (c.annotate bad).result = .error .tagsNotObject := by decide +kernel
  obtain ⟨-, -, -, hsuccess, -⟩ := annotate_idempotent c hflags htags hnodes g hg
  obtain ⟨-, -, -, -, hagain, hsame⟩ := hsuccess _ hok
  obtain ⟨-, -, -, -, hfailure⟩ := annotate_idempotent c hflags htags hnodes bad hbad
  exact ⟨hflags, htags, hnodes, hg, hbad, hok, hagain, hsame, hround, hfails, hfailure _ hfails⟩

end RoadAccess
