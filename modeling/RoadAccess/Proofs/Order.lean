import RoadAccess.Proofs.Graphs
import RoadAccess.Proofs.Locality

namespace RoadAccess

/-!
# The order of edges

Every call stays with its edge, so calls on different edges can be made in any order, and the edges
of a graph can be listed in any order.

* `Classifier.answers` — what calls answer; `Classifier.answers_eq_map` — on different edges every
  call answers as if it were the only one;
* `Classifier.annotateEdges_eq_ok_iff`, `Classifier.state_annotateEdges` — different edges are
  annotated if each of them alone is, and come out as if each were alone;
* `Tally.perm_ofList` — outcomes are counted in any order;
* `Classifier.annotate_of_same` — graphs that differ in their order only are annotated alike;
* `order_of_edges` — the whole.
-/

/-! ### Tallies -/

theorem perm_eraseDups {α : Type} [DecidableEq α] {items items' : List α}
    (h : items.Perm items') : items.eraseDups.Perm items'.eraseDups := by
  refine (List.perm_ext_iff_of_nodup (nodup_eraseDups _) (nodup_eraseDups _)).2 fun a => ?_
  rw [List.mem_eraseDups, List.mem_eraseDups, h.mem_iff]

/-- The tally lists the same counts, whatever the order of the outcomes. -/
theorem Tally.perm_ofList {outcomes outcomes' : List Access} (h : outcomes.Perm outcomes') :
    (Tally.ofList outcomes).Perm (Tally.ofList outcomes') := by
  have hcount : (fun a => (a, outcomes.count a)) = fun a => (a, outcomes'.count a) :=
    funext fun a => by rw [h.count_eq]
  rw [Tally.ofList, Tally.ofList, hcount]
  exact (perm_eraseDups h).map _

namespace Classifier

open EdgewiseStore

/-! ### Calls -/

section

variable {σ ε κ : Type} [FlagStore σ ε]

/-- What calls answer, one after the other, each with its edge. -/
def answers (c : Classifier) (s : σ) : List (Call ε) → List (ε × Except Fault Reply)
  | [] => []
  | call :: calls =>
    (call.edge, (c.perform s call).result) :: c.answers (c.perform s call).state calls

/-- On different edges every call answers as if it were the only one. -/
theorem answers_eq_map [EdgewiseStore σ ε κ] (c : Classifier) {calls : List (Call ε)} (s : σ)
    (hedges : (calls.map Call.edge).Nodup) :
    c.answers s calls = calls.map fun call => (call.edge, (c.perform s call).result) := by
  induction calls generalizing s with
  | nil => rfl
  | cons first calls ih =>
    obtain ⟨hfirst, hrest⟩ := List.nodup_cons.1 hedges
    rw [answers, List.map_cons, ih _ hrest]
    congr 1
    refine List.map_congr_left fun call hcall => ?_
    -- The first call is on another edge, so this one finds what it would have found before it.
    have hne : call.edge ≠ first.edge := fun heq => hfirst (heq ▸ List.mem_map_of_mem hcall)
    have hkept := (local_perform c first).update.content_of_ne s hne
    rw [(local_perform c call).result_eq hkept]

/-- Calls on different edges answer the same in any order, and leave the same for every edge. -/
theorem calls_perm [EdgewiseStore σ ε κ] (c : Classifier) {calls calls' : List (Call ε)} (s : σ)
    (hperm : calls.Perm calls') (hedges : (calls.map Call.edge).Nodup) :
    (c.answers s calls).Perm (c.answers s calls') ∧
      ∀ e, content (c.after s calls) e = content (c.after s calls') e := by
  have hedges' : (calls'.map Call.edge).Nodup := (hperm.map Call.edge).nodup_iff.1 hedges
  constructor
  · rw [answers_eq_map c s hedges, answers_eq_map c s hedges']
    exact hperm.map _
  · exact content_foldl_perm (local_perform c) hperm hedges fun _ => rfl

end

/-! ### Edges of a graph -/

variable {c : Classifier}

/-- Different edges are annotated exactly if each of them alone is, and their outcomes are the
    accesses to their ways. -/
theorem annotateEdges_eq_ok_iff {g : Graph} {es : List GraphEdge} {outcomes : List Access}
    (hes : es.Nodup) :
    (c.annotateEdges g es).result = .ok outcomes ↔
      (∀ e ∈ es, (c.annotateEdge g e).result = .ok (c.wayAccess g e)) ∧
        outcomes = es.map (c.wayAccess g) := by
  induction es generalizing g outcomes with
  | nil => simp [annotateEdges, Outcome.pure, eq_comm]
  | cons first es ih =>
    obtain ⟨hfirst, hrest⟩ := List.nodup_cons.1 hes
    -- The later edges are as they were before the first one was annotated.
    let g' := (c.annotateEdge g first).state
    have hkept : ∀ e ∈ es, content g' e = content g e := fun e he =>
      (local_annotateEdge c first).update.content_of_ne g fun heq => hfirst (heq ▸ he)
    have hresult : ∀ e ∈ es, (c.annotateEdge g' e).result = (c.annotateEdge g e).result :=
      fun e he => (local_annotateEdge c e).result_eq (hkept e he)
    have hway : ∀ e ∈ es, c.wayAccess g' e = c.wayAccess g e := by
      intro e he
      have hattributes : g'.attribute? e = g.attribute? e := (Prod.mk.inj (hkept e he)).2
      rw [wayAccess, hattributes, wayAccess]
    have hlater : ∀ later, (c.annotateEdges g' es).result = .ok later ↔
        (∀ e ∈ es, (c.annotateEdge g e).result = .ok (c.wayAccess g e)) ∧
          later = es.map (c.wayAccess g) := by
      intro later
      rw [ih hrest, List.map_congr_left hway]
      refine and_congr_left' (forall₂_congr fun e he => ?_)
      rw [hresult e he, hway e he]
    rw [List.forall_mem_cons]
    constructor
    · intro h
      obtain ⟨a, ha, hthen, -⟩ := Outcome.ok_of_andThen h
      obtain ⟨later, hrun, rfl⟩ := Outcome.ok_of_map hthen
      obtain ⟨hall, rfl⟩ := (hlater later).1 hrun
      obtain rfl := wayAccess_of_annotateEdge ha
      exact ⟨⟨ha, hall⟩, rfl⟩
    · rintro ⟨⟨ha, hall⟩, rfl⟩
      have hrun := (hlater _).2 ⟨hall, rfl⟩
      rw [annotateEdges, Outcome.andThen_of_ok ha]
      show Except.map _ (c.annotateEdges g' es).result = _
      rw [hrun]
      rfl

/-- A run that succeeds has annotated one edge after the other. -/
theorem state_annotateEdges {g : Graph} {es : List GraphEdge} {outcomes : List Access}
    (h : (c.annotateEdges g es).result = .ok outcomes) :
    (c.annotateEdges g es).state = es.foldl (fun g e => (c.annotateEdge g e).state) g := by
  induction es generalizing g outcomes with
  | nil => rfl
  | cons e es ih =>
    obtain ⟨a, -, hthen, hstate⟩ := Outcome.ok_of_andThen h
    obtain ⟨later, hrun, -⟩ := Outcome.ok_of_map hthen
    rw [annotateEdges, hstate, List.foldl_cons]
    exact ih hrun

/-- Graphs that differ in their order only are annotated alike. -/
theorem annotate_of_same {g g' : Graph} {tally : Tally} (hg : g.Simple) (hg' : g'.Simple)
    (hsame : g.Same g') (h : (c.annotate g).result = .ok tally) :
    ∃ tally', (c.annotate g').result = .ok tally' ∧ tally.Perm tally' ∧
      ∀ e, content (c.annotate g).state e = content (c.annotate g').state e := by
  rw [result_annotate] at h
  obtain ⟨outcomes, hrun, rfl⟩ := Outcome.ok_of_map h
  obtain ⟨hall, rfl⟩ := (annotateEdges_eq_ok_iff (Graph.nodup_edges hg)).1 hrun
  have hperm : g.edges.Perm g'.edges := hsame.perm_edges hg hg'
  have hcontent : ∀ e, content g e = content g' e := fun e =>
    Prod.ext (hsame.hasEdge hg hg' e) (funext (hsame.attributes e))
  have hway : c.wayAccess g' = c.wayAccess g := by
    funext e
    rw [wayAccess, ← hsame.attributes, wayAccess]
  have hall' : ∀ e ∈ g'.edges, (c.annotateEdge g' e).result = .ok (c.wayAccess g' e) := by
    intro e he
    rw [← (local_annotateEdge c e).result_eq (hcontent e), hway]
    exact hall e (hperm.mem_iff.2 he)
  -- Each edge of the second graph is annotated as in the first, so all of them are.
  have hrun' := (annotateEdges_eq_ok_iff (Graph.nodup_edges hg')).2 ⟨hall', rfl⟩
  refine ⟨_, by rw [result_annotate, hrun', Except.map], ?_, fun e => ?_⟩
  · rw [hway]
    exact Tally.perm_ofList (hperm.map _)
  · have hedges : (g.edges.map fun e => e).Nodup := by
      rw [List.map_id']
      exact Graph.nodup_edges hg
    rw [state_annotate, state_annotate, state_annotateEdges hrun, state_annotateEdges hrun']
    exact content_foldl_perm (local_annotateEdge c) hperm hedges hcontent e

end Classifier

/-! ### The whole -/

/-- **The order of edges does not matter.**  Calls on different edges give every edge the same
    answer or the same failure in any order, and leave a table with the same flags.  Of two graphs,
    simple as all graphs are that can be built, with the same nodes, edges and attributes in whatever
    orders these were added, the second can be annotated if the first can, and they come out with the
    same counts and with the same attributes on every edge. -/
theorem order_of_edges (c : Classifier) :
    (∀ (t : FlagTable) (calls calls' : List (Call Identifier)), calls.Perm calls' →
      (calls.map Call.edge).Nodup →
      (c.answers t calls).Perm (c.answers t calls') ∧
        ∀ slot, (c.after t calls).find? slot = (c.after t calls').find? slot) ∧
    (∀ g g' : Graph, g.Simple → g'.Simple → g.Same g' →
      ∀ tally, (c.annotate g).result = .ok tally →
        ∃ tally', (c.annotate g').result = .ok tally' ∧ tally.Perm tally' ∧
          ∀ e, (c.annotate g).state.hasEdge e = (c.annotate g').state.hasEdge e ∧
            ∀ name, (c.annotate g).state.attribute? e name =
              (c.annotate g').state.attribute? e name) := by
  constructor
  · intro t calls calls' hperm hedges
    obtain ⟨hanswers, hafter⟩ := c.calls_perm t hperm hedges
    exact ⟨hanswers, fun slot => congrFun (congrFun (hafter slot.edge) slot.key) slot.reverse⟩
  · intro g g' hg hg' hsame tally h
    obtain ⟨tally', h', hcounts, hstate⟩ := Classifier.annotate_of_same hg hg' hsame h
    refine ⟨tally', h', hcounts, fun e => ?_⟩
    obtain ⟨hedge, hattributes⟩ := Prod.mk.inj (hstate e)
    exact ⟨hedge, congrFun hattributes⟩

/-- A street, a gate that cannot be handled because its node is a number, and a ferry; and a graph to
    which a street and a ferry were added in either order. -/
theorem order_of_street_and_ferry :
    let c : Classifier := {}
    let street := Json.object [("highway", .text "tertiary"), ("junction", .text "roundabout")]
    let gate := Json.object [("highway", .text "tertiary"), ("barrier_edge", .text "yes")]
    let ferry := Json.object [("route", .text "ferry")]
    let calls : List (Call Identifier) :=
      [.handle (.int 1) street .null, .handle (.int 2) gate (.array [.int 5]),
        .handle (.int 3) ferry .null]
    let g := (Graph.empty.addEdge (.int 1, .int 2) [("tags", street)]).addEdge (.int 2, .int 3)
      [("tags", ferry)]
    let g' := (Graph.empty.addEdge (.int 2, .int 3) [("tags", ferry)]).addEdge (.int 1, .int 2)
      [("tags", street)]
    (calls.map Call.edge).Nodup ∧
      (c.answers FlagTable.empty calls).Perm (c.answers FlagTable.empty calls.reverse) ∧
      (c.after FlagTable.empty calls.reverse).find? ⟨"bike_access", .int 2, false⟩ = some true ∧
      g.Same g' ∧ g.edges ≠ g'.edges ∧
      (c.annotate g).result = .ok [(.routable, 1), (.ferry, 1)] ∧
      (c.annotate g').result = .ok [(.ferry, 1), (.routable, 1)] ∧
      ∀ e name, (c.annotate g).state.attribute? e name =
        (c.annotate g').state.attribute? e name := by
  intro c street gate ferry calls g g'
  have hedges : (calls.map Call.edge).Nodup := by decide
  obtain ⟨hanswers, hafter⟩ := (order_of_edges c).1 FlagTable.empty calls calls.reverse
    calls.reverse_perm.symm hedges
  have hsame : g.Same g' := Graph.same_addEdge_addEdge Graph.simple_empty (by decide) _ _
  have hresult : (c.annotate g).result = .ok [(.routable, 1), (.ferry, 1)] := by decide +kernel
  obtain ⟨_, -, -, hstate⟩ := (order_of_edges c).2 g g'
    (Graph.simple_addEdge (Graph.simple_addEdge Graph.simple_empty ..) ..)
    (Graph.simple_addEdge (Graph.simple_addEdge Graph.simple_empty ..) ..) hsame _ hresult
  have hresult' : (c.annotate g').result = .ok [(.ferry, 1), (.routable, 1)] := by decide +kernel
  have hattributes : ∀ e name, (c.annotate g).state.attribute? e name =
      (c.annotate g').state.attribute? e name := fun e => (hstate e).2
  have hne : g.edges ≠ g'.edges := by decide
  refine ⟨hedges, hanswers, ?_, hsame, hne, hresult, hresult', hattributes⟩
  -- The gate keeps the pair of its tags when its node cannot be read, in either order.
  rw [← hafter]
  rfl

end RoadAccess
