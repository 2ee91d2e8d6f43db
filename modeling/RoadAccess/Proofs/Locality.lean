import RoadAccess.Proofs.Annotation
import RoadAccess.Proofs.Runs

namespace RoadAccess

/-!
# Steps that stay with one edge

A way is handled on its own edge.  What comes of it depends on what the store keeps for that edge,
and what the store keeps for any other edge is left alone; so steps on different edges do not notice
each other.

* `LocalUpdate`, `LocalStep` — a change, and a step with an answer, that stays with one edge;
  `LocalStep.of_read`, `LocalStep.andThen` — how such steps are put together;
* `EdgewiseStore` — what a store keeps for an edge; the table in memory and the graph are such stores;
* `Classifier.local_handle`, `Classifier.local_perform`, `Classifier.local_annotateEdge` — handling,
  every other call and annotation stay with their edge;
* `content_foldl_of_ne`, `content_foldl_of_mem` — after steps on different edges every edge is as its
  own step alone leaves it;
* `content_foldl_perm` — so the order of the steps does not matter.
-/

/-! ### Local steps -/

section

variable {φ ω σ ε κ α β : Type} {content : σ → ε → κ} {e : ε}

/-- A change that stays with an edge: what the edge is left with depends on what it had, and every
    other edge is left with what it had. -/
structure LocalUpdate (content : σ → ε → κ) (e : ε) (f : σ → σ) : Prop where
  content_self : ∀ {s s' : σ}, content s e = content s' e → content (f s) e = content (f s') e
  content_of_ne : ∀ (s : σ) {e' : ε}, e' ≠ e → content (f s) e' = content s e'

/-- A step that stays with an edge: its answer depends on what the edge had, and its change stays
    with the edge. -/
structure LocalStep (content : σ → ε → κ) (e : ε) (step : σ → Outcome φ ω σ α) : Prop where
  result_eq : ∀ {s s' : σ}, content s e = content s' e → (step s).result = (step s').result
  update : LocalUpdate content e fun s => (step s).state

theorem LocalUpdate.id : LocalUpdate content e fun s => s := ⟨fun h => h, fun _ _ _ => rfl⟩

theorem LocalUpdate.comp {f g : σ → σ} (hg : LocalUpdate content e g)
    (hf : LocalUpdate content e f) : LocalUpdate content e fun s => g (f s) where
  content_self h := hg.content_self (hf.content_self h)
  content_of_ne s _ hne := (hg.content_of_ne (f s) hne).trans (hf.content_of_ne s hne)

/-- A change with an answer that is always the same. -/
theorem LocalUpdate.answering {f : σ → σ} (hf : LocalUpdate content e f) (events : σ → List ω)
    (result : Except φ α) : LocalStep content e fun s => ⟨f s, events s, result⟩ :=
  ⟨fun _ => rfl, hf⟩

/-- Another answer, made from the first one. -/
theorem LocalStep.map {step : σ → Outcome φ ω σ α} (h : LocalStep content e step) (f : α → β) :
    LocalStep content e fun s => (step s).map f where
  result_eq hs := congrArg (Except.map f) (h.result_eq hs)
  update := h.update

/-- A step after a change on the same edge. -/
theorem LocalStep.after {step : σ → Outcome φ ω σ α} {f : σ → σ} (h : LocalStep content e step)
    (hf : LocalUpdate content e f) : LocalStep content e fun s => step (f s) where
  result_eq hs := h.result_eq (hf.content_self hs)
  update := h.update.comp hf

/-- A step that reads something of the edge first, and is local whatever it reads. -/
theorem LocalStep.of_read {ρ : Type} {read : σ → ρ} {step : σ → Outcome φ ω σ α}
    (hread : ∀ {s s' : σ}, content s e = content s' e → read s = read s')
    (h : ∀ r, ∃ next, LocalStep content e next ∧ ∀ s, read s = r → step s = next s) :
    LocalStep content e step where
  -- Two stores that keep the same for the edge are read alike, so they take the same next step.
  result_eq {s s'} hs := by
    obtain ⟨next, hnext, heq⟩ := h (read s')
    rw [heq s (hread hs), heq s' rfl]
    exact hnext.result_eq hs
  update :=
    { content_self := by
        intro s s' hs
        obtain ⟨next, hnext, heq⟩ := h (read s')
        rw [heq s (hread hs), heq s' rfl]
        exact hnext.update.content_self hs
      content_of_ne := by
        intro s e' hne
        obtain ⟨next, hnext, heq⟩ := h (read s)
        rw [heq s rfl]
        exact hnext.update.content_of_ne s hne }

/-- One step after the other on the same edge. -/
theorem LocalStep.andThen {step : σ → Outcome φ ω σ α} {next : σ → α → Outcome φ ω σ β}
    (h : LocalStep content e step) (hnext : ∀ a, LocalStep content e fun s => next s a) :
    LocalStep content e fun s => (step s).andThen next := by
  refine .of_read h.result_eq fun r => ?_
  cases r with
  | error f => exact ⟨_, h.update.answering _ _, fun s hs => Outcome.andThen_of_error hs next⟩
  | ok a =>
    have hlater : LocalStep content e fun s => next (step s).state a := (hnext a).after h.update
    refine ⟨_, ?_, fun s hs => Outcome.andThen_of_ok hs next⟩
    exact ⟨hlater.result_eq, hlater.update⟩

/-! ### Steps on different edges -/

variable {ι : Type} {edge : ι → ε} {step : ι → σ → Outcome φ ω σ α}

/-- Steps on other edges leave an edge alone. -/
theorem content_foldl_of_ne (hstep : ∀ i, LocalStep content (edge i) (step i)) {items : List ι}
    (h : ∀ i ∈ items, edge i ≠ e) (s : σ) :
    content (items.foldl (fun s i => (step i s).state) s) e = content s e := by
  induction items generalizing s with
  | nil => rfl
  | cons i items ih =>
    rw [List.forall_mem_cons] at h
    rw [List.foldl_cons, ih h.2]
    exact (hstep i).update.content_of_ne s h.1.symm

/-- After steps on different edges every edge is as its own step alone leaves it. -/
theorem content_foldl_of_mem (hstep : ∀ i, LocalStep content (edge i) (step i)) {items : List ι}
    (hedges : (items.map edge).Nodup) {i : ι} (hi : i ∈ items) (s : σ) :
    content (items.foldl (fun s i => (step i s).state) s) (edge i) =
      content (step i s).state (edge i) := by
  induction items generalizing s with
  | nil => cases hi
  | cons first items ih =>
    obtain ⟨hfirst, hrest⟩ := List.nodup_cons.1 hedges
    rw [List.foldl_cons]
    rcases List.mem_cons.1 hi with rfl | hi
    · -- The later steps are on other edges.
      refine content_foldl_of_ne hstep (fun j hj heq => ?_) _
      exact hfirst (heq ▸ List.mem_map_of_mem hj)
    · -- The first step is on another edge, so the step of this one finds what it found before.
      have hne : edge i ≠ edge first := fun heq => hfirst (heq ▸ List.mem_map_of_mem hi)
      rw [ih hrest hi]
      exact (hstep i).update.content_self ((hstep first).update.content_of_ne s hne)

/-- **Steps on different edges can be taken in any order**, and from any store that keeps the same
    for every edge. -/
theorem content_foldl_perm (hstep : ∀ i, LocalStep content (edge i) (step i))
    {items items' : List ι} (hperm : items.Perm items') (hedges : (items.map edge).Nodup) {s s' : σ}
    (hs : ∀ e, content s e = content s' e) (e : ε) :
    content (items.foldl (fun s i => (step i s).state) s) e =
      content (items'.foldl (fun s i => (step i s).state) s') e := by
  have hedges' : (items'.map edge).Nodup := (hperm.map edge).nodup_iff.1 hedges
  -- An edge with a step is as that step leaves it, in either order, and any other edge as it was.
  by_cases h : e ∈ items.map edge
  · obtain ⟨i, hi, rfl⟩ := List.mem_map.1 h
    rw [content_foldl_of_mem hstep hedges hi,
      content_foldl_of_mem hstep hedges' (hperm.mem_iff.1 hi)]
    exact (hstep i).update.content_self (hs (edge i))
  · have hother : ∀ i ∈ items, edge i ≠ e := fun i hi heq => h (heq ▸ List.mem_map_of_mem hi)
    rw [content_foldl_of_ne hstep hother,
      content_foldl_of_ne hstep fun i hi => hother i (hperm.mem_iff.2 hi)]
    exact hs e

end

/-! ### Stores -/

/-- A store that keeps something for each edge, from which all that can be read of the edge
    follows. -/
class EdgewiseStore (σ : Type) (ε κ : outParam Type) [FlagStore σ ε] where
  /-- What is kept for an edge. -/
  content : σ → ε → κ
  fault?_eq : ∀ {s s' : σ} {e : ε}, content s e = content s' e →
    FlagStore.fault? s e = FlagStore.fault? s' e
  get_eq : ∀ {s s' : σ} {slot : Slot ε}, content s slot.edge = content s' slot.edge →
    FlagStore.get s slot = FlagStore.get s' slot
  /-- A write stays with its edge. -/
  local_set : ∀ (slot : Slot ε) (b : Bool),
    LocalUpdate content slot.edge fun s => FlagStore.set s slot b

/-- A table keeps for an edge the flags that were written under each key and for each sense. -/
instance : EdgewiseStore FlagTable Identifier (String → Bool → Option Bool) where
  content t e key reverse := t.find? ⟨key, e, reverse⟩
  fault?_eq _ := rfl
  get_eq {_ _ slot} h :=
    congrArg (Option.getD · false) (congrFun (congrFun h slot.key) slot.reverse)
  local_set slot b :=
    { content_self := by
        intro t t' h
        funext key reverse
        show (t.set slot b).find? _ = (t'.set slot b).find? _
        rw [FlagTable.find?_set, FlagTable.find?_set]
        exact if_congr Iff.rfl rfl (congrFun (congrFun h key) reverse)
      content_of_ne := by
        intro t e hne
        funext key reverse
        show (t.set slot b).find? _ = _
        rw [FlagTable.find?_set, if_neg]
        rintro rfl
        exact hne rfl }

/-- A graph keeps for an edge its attributes, in no particular order, and whether it is there. -/
instance : EdgewiseStore Graph GraphEdge (Bool × (String → Option Json)) where
  content g e := (g.hasEdge e, g.attribute? e)
  fault?_eq {g g' e} h := by
    show (if g.hasEdge e then none else some Fault.noSuchEdge) = if g'.hasEdge e then none else _
    rw [(Prod.mk.inj h).1]
  get_eq {g g' slot} h := by
    show g.flag slot = g'.flag slot
    rw [Graph.flag, Graph.flag, (Prod.mk.inj h).2]
  local_set slot b :=
    { content_self := by
        intro g g' h
        obtain ⟨hedge, hattributes⟩ := Prod.mk.inj h
        refine Prod.ext ?_ (funext fun name => ?_)
        · show (g.setFlag slot b).hasEdge _ = (g'.setFlag slot b).hasEdge _
          rw [Graph.setFlag, Graph.setFlag, Graph.hasEdge_setAttribute,
            Graph.hasEdge_setAttribute, hedge]
        · show (g.setFlag slot b).attribute? _ _ = (g'.setFlag slot b).attribute? _ _
          rw [Graph.attribute?_setFlag, Graph.attribute?_setFlag, hattributes]
      content_of_ne := by
        intro g e hne
        refine Prod.ext ?_ (funext fun name => ?_)
        · show (g.setFlag slot b).hasEdge e = g.hasEdge e
          rw [Graph.setFlag, Graph.hasEdge_setAttribute, decide_eq_false hne, Bool.false_or]
        · show (g.setFlag slot b).attribute? e name = g.attribute? e name
          rw [Graph.attribute?_setFlag, if_neg fun h => hne h.1] }

namespace Classifier

open EdgewiseStore

variable {σ ε κ : Type} [FlagStore σ ε] [EdgewiseStore σ ε κ]

/-! ### Every step stays with its edge -/

theorem local_mark (c : Classifier) (e : ε) (d : Directions) :
    LocalUpdate content e fun s : σ => c.mark s e d :=
  (local_set (c.accessSlot e true) d.backward).comp (local_set (c.accessSlot e false) d.forward)

/-- Closing an edge at a node stays with the edge. -/
theorem local_block (c : Classifier) (e : ε) (node : Json) :
    LocalStep content e fun s : σ => c.block s e node := by
  cases ht : Tags.ofJson? node with
  | none =>
    simp only [block, ht]
    exact LocalUpdate.id.answering _ _
  | some t =>
    cases hb : c.profile.isBarrier t with
    | false =>
      simp only [block, ht, hb]
      exact LocalUpdate.id.answering _ _
    | true =>
      simp only [block, ht, hb, if_true]
      refine .of_read fault?_eq fun fault => ?_
      cases fault with
      | some f => exact ⟨_, LocalUpdate.id.answering _ _, fun s hs => by rw [hs]⟩
      | none => exact ⟨_, (local_mark c e .closed).answering _ _, fun s hs => by rw [hs]⟩

theorem local_blockFirst (c : Classifier) (e : ε) (t : Tags) (nodes : Json) :
    LocalStep content e fun s : σ => c.blockFirst s e t nodes := by
  unfold blockFirst
  split
  · split
    · exact LocalUpdate.id.answering _ _
    · exact LocalUpdate.id.answering _ _
    · next node _ => exact local_block c e node
  · exact LocalUpdate.id.answering _ _

/-- **Handling a way stays with its edge.** -/
theorem local_handleTags (c : Classifier) (e : ε) (t : Tags) (nodes : Json) :
    LocalStep content e fun s : σ => c.handleTags s e t nodes := by
  -- Whether the edge can hold flags and its roundabout flag are all that handling reads.
  have hread : ∀ {s s' : σ}, content s e = content s' e →
      (FlagStore.fault? s e, FlagStore.get s (c.roundaboutSlot e)) =
        (FlagStore.fault? s' e, FlagStore.get s' (c.roundaboutSlot e)) := fun h =>
    Prod.ext (fault?_eq h) (get_eq h)
  refine .of_read hread ?_
  rintro ⟨fault, roundabout⟩
  cases hd : c.senses roundabout t with
  | none =>
    have ha := (c.senses_eq_none_iff roundabout t).1 hd
    exact ⟨_, LocalUpdate.id.answering _ _, fun s _ => handleTags_of_skip ha s e nodes⟩
  | some d =>
    cases fault with
    | some f =>
      exact ⟨_, LocalUpdate.id.answering _ _, fun s hs =>
        handleTags_of_fault (access_ne_skip hd) (Prod.mk.inj hs).1 nodes⟩
    | none =>
      -- The pair of the tags is written first, and a node may close the edge after that.
      have hpair : LocalStep content e fun s : σ => c.blockFirst (c.mark s e d) e t nodes :=
        (local_blockFirst c e t nodes).after (local_mark c e d)
      refine ⟨_, hpair.map fun _ => c.access t, fun s hs => ?_⟩
      obtain ⟨hfault, hround⟩ := Prod.mk.inj hs
      exact handleTags_of_senses hfault (hround ▸ hd) nodes

/-- So does handling a way that is given by any value. -/
theorem local_handle (c : Classifier) (e : ε) (way nodes : Json) :
    LocalStep content e fun s : σ => c.handle s e way nodes := by
  cases hw : Tags.ofJson? way with
  | none =>
    simp only [handle_of_unreadable hw]
    exact ⟨fun _ => rfl, .id⟩
  | some t =>
    simp only [handle_of_tags hw]
    exact local_handleTags c e t nodes

/-- **Every call stays with its edge.** -/
theorem local_perform (c : Classifier) (call : Call ε) :
    LocalStep content call.edge fun s : σ => c.perform s call := by
  cases call with
  | handle e way nodes => exact (local_handle c e way nodes).map Reply.access
  | block e node =>
    have hblock : LocalStep content e fun s : σ => c.block s e node := local_block c e node
    exact hblock.map fun _ => Reply.done
  | read slot =>
    have hread : ∀ {s s' : σ}, content s slot.edge = content s' slot.edge →
        FlagStore.read s slot = FlagStore.read s' slot := fun h => by
      rw [FlagStore.read, FlagStore.read, fault?_eq h, get_eq h]
    refine .of_read hread fun value => ?_
    exact ⟨_, LocalUpdate.id.answering _ _, fun s hs => by rw [perform, hs]⟩
  | write slot b =>
    have hread : ∀ {s s' : σ}, content s slot.edge = content s' slot.edge →
        FlagStore.fault? s slot.edge = FlagStore.fault? s' slot.edge := fault?_eq
    refine .of_read hread fun fault => ?_
    cases fault with
    | some f =>
      refine ⟨_, LocalUpdate.id.answering (fun _ => []) (.error f), fun s hs => ?_⟩
      rw [perform, FlagStore.write, hs]
      rfl
    | none =>
      refine ⟨_, (local_set slot b).answering (fun _ => []) (.ok .done), fun s hs => ?_⟩
      rw [perform, FlagStore.write, hs]
      rfl

/-! ### Annotation -/

/-- **Annotating an edge stays with the edge.** -/
theorem local_annotateEdge (c : Classifier) (e : GraphEdge) :
    LocalStep content e fun g : Graph => c.annotateEdge g e := by
  have hread : ∀ name {g g' : Graph}, content g e = content g' e →
      (g.attribute? e name).getD .null = (g'.attribute? e name).getD .null := by
    intro name g g' h
    rw [(Prod.mk.inj h).2]
  -- A way that stays out closes its edge.
  have hclose : ∀ access, LocalStep content e fun g : Graph =>
      (.pure (if access = .skip then c.mark g e .closed else g) access :
        Outcome Fault Event Graph Access) := by
    intro access
    by_cases ha : access = .skip
    · simp only [if_pos ha]
      exact (local_mark c e .closed).answering _ _
    · simp only [if_neg ha]
      exact LocalUpdate.id.answering _ _
  have hrest : ∀ t, LocalStep content e fun g : Graph =>
      (c.handleTags g e t ((g.attribute? e nodesAttribute).getD .null)).andThen fun g access =>
        .pure (if access = .skip then c.mark g e .closed else g) access := fun t =>
    .of_read (hread nodesAttribute) fun nodes =>
      ⟨_, (local_handleTags c e t nodes).andThen hclose, fun g hg => by rw [hg]⟩
  refine .of_read (fun h => congrArg Tags.ofJson? (hread tagsAttribute h)) fun way => ?_
  cases way with
  | none =>
    exact ⟨_, LocalUpdate.id.answering _ _, fun g hg => annotateEdge_of_unreadable hg⟩
  | some t =>
    exact ⟨_, (hrest t).after (local_set (c.roundaboutSlot e) t.isRoundabout),
      fun g hg => annotateEdge_of_tags hg⟩

end Classifier

end RoadAccess
