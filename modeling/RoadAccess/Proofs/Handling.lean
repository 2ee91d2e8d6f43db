import RoadAccess.Proofs.Store

namespace RoadAccess.Classifier

/-!
# What handling a way comes to

Handling reads a single flag, that of the roundabout, and writes a single pair of flags.  So what
it comes to can be said without a store, and the store comes in at two points only.

* `senses` — the senses in which the tags alone open an edge, if the way enters the network;
* `closes` — whether the first node closes the edge again;
* `verdict` — the two together: the pair that an edge ends with, if one is written;
* `result_handleTags`, `state_handleTags` — what handling answers and what it leaves of the store,
  in terms of the verdict;
* `Handled`, `handled` — the five cases of handling a way given by any value.
-/

/-! ### Without a store -/

/-- The senses in which the tags of a way open its edge, if the way enters the network. -/
def senses (c : Classifier) (roundabout : Bool) (t : Tags) : Option Directions :=
  match c.access t with
  | .routable => some (c.profile.directions t roundabout)
  | .ferry => some .both
  | .skip => none

/-- Whether a node closes its edge. -/
def blocks (c : Classifier) (node : Json) : Except Fault Bool :=
  match Tags.ofJson? node with
  | none => .error .tagsNotObject
  | some t => .ok (c.profile.isBarrier t)

/-- Whether the edge of a way is closed by the first of its nodes; only an edge that stands for a
    point barrier asks its nodes. -/
def closes (c : Classifier) (t : Tags) (nodes : Json) : Except Fault Bool :=
  if t.has barrierEdgeTag then
    match firstNode? nodes with
    | .error f => .error f
    | .ok none => .ok false
    | .ok (some node) => c.blocks node
  else .ok false

/-- The pair of access flags that the edge of a way ends with, if one is written. -/
def verdict (c : Classifier) (roundabout : Bool) (t : Tags) (nodes : Json) :
    Except Fault (Option Directions) :=
  match c.senses roundabout t with
  | none => .ok none
  | some d => (c.closes t nodes).map fun closed => some (if closed then .closed else d)

/-- Only a way that stays out opens no edge. -/
theorem senses_eq_none_iff (c : Classifier) (roundabout : Bool) (t : Tags) :
    c.senses roundabout t = none ↔ c.access t = .skip := by
  unfold senses
  cases c.access t <;> simp

theorem blocks_eq_true_iff (c : Classifier) (node : Json) :
    c.blocks node = .ok true ↔ (Tags.ofJson? node).any c.profile.isBarrier = true := by
  unfold blocks
  cases Tags.ofJson? node <;> simp

/-- A node list whose items are objects can always be read. -/
theorem closes_objects (c : Classifier) (t : Tags) (nodes : List (List (String × Json))) :
    ∃ b, c.closes t (.array (nodes.map .object)) = .ok b := by
  unfold closes
  split
  · cases nodes with
    | nil => exact ⟨false, rfl⟩
    | cons node nodes =>
      have hfirst : firstNode? (.array ((node :: nodes).map .object)) = .ok (some (.object node)) :=
        rfl
      rw [hfirst]
      exact ⟨c.profile.isBarrier (Tags.ofFields node), by simp [blocks, Tags.ofJson?_object]⟩
  · exact ⟨false, rfl⟩

/-- Nothing is closed where there are no nodes. -/
theorem closes_of_not_truthy {nodes : Json} (h : nodes.truthy = false) (c : Classifier) (t : Tags) :
    c.closes t nodes = .ok false := by
  have hfirst : firstNode? nodes = .ok none := by simp [firstNode?, h]
  rw [closes, hfirst]
  split <;> rfl

theorem access_ne_skip {c : Classifier} {roundabout : Bool} {t : Tags} {d : Directions}
    (h : c.senses roundabout t = some d) : c.access t ≠ .skip := by
  intro ha
  rw [(c.senses_eq_none_iff roundabout t).2 ha] at h
  cases h

theorem verdict_of_skip {c : Classifier} {t : Tags} (h : c.access t = .skip) (roundabout : Bool)
    (nodes : Json) : c.verdict roundabout t nodes = .ok none := by
  rw [verdict, (c.senses_eq_none_iff roundabout t).2 h]

/-- A way that enters the network has a pair written unless its first node cannot be read. -/
theorem verdict_of_senses {c : Classifier} {roundabout : Bool} {t : Tags} {d : Directions}
    (h : c.senses roundabout t = some d) (nodes : Json) :
    c.verdict roundabout t nodes =
      (c.closes t nodes).map fun closed => some (if closed then .closed else d) := by
  rw [verdict, h]

/-- There is no pair for a way that stays out; for any other way the pair is that of its tags,
    unless a node closes the edge. -/
theorem verdict_eq_ok {c : Classifier} {roundabout : Bool} {t : Tags} {nodes : Json}
    {pair : Option Directions} (h : c.verdict roundabout t nodes = .ok pair) :
    (c.access t = .skip ∧ pair = none) ∨
      ∃ d b, c.senses roundabout t = some d ∧ c.closes t nodes = .ok b ∧
        pair = some (if b then .closed else d) := by
  rcases hd : c.senses roundabout t with _ | d
  · have ha := (c.senses_eq_none_iff roundabout t).1 hd
    rw [verdict_of_skip ha] at h
    exact .inl ⟨ha, (Except.ok.inj h).symm⟩
  · rw [verdict_of_senses hd] at h
    obtain ⟨b, hb, hpair⟩ := Outcome.ok_of_map h
    exact .inr ⟨d, b, rfl, hb, hpair.symm⟩

/-! ### Closing an edge -/

variable {σ ε : Type} [FlagStore σ ε]

/-- A node that blocks needs an edge that can hold flags. -/
theorem block_of_fault {s : σ} {e : ε} {f : Fault} (h : FlagStore.fault? s e = some f)
    {c : Classifier} {node : Json} (hb : c.blocks node = .ok true) :
    (c.block s e node).state = s ∧ (c.block s e node).result = .error f := by
  unfold blocks at hb
  unfold block
  cases ht : Tags.ofJson? node with
  | none => simp [ht] at hb
  | some t =>
    simp only [ht, Except.ok.injEq] at hb
    simp [hb, h]

/-- A node fails to close an edge exactly when it cannot be read. -/
theorem result_block {s : σ} {e : ε} (h : FlagStore.fault? s e = none) (c : Classifier)
    (node : Json) : (c.block s e node).result = (c.blocks node).map fun _ => () := by
  unfold block blocks
  cases Tags.ofJson? node with
  | none => rfl
  | some t => cases hb : c.profile.isBarrier t <;> simp [hb, h] <;> rfl

/-- A node that blocks closes its edge. -/
theorem state_block_of_blocks {s : σ} {e : ε} (h : FlagStore.fault? s e = none) {c : Classifier}
    {node : Json} (hb : c.blocks node = .ok true) :
    (c.block s e node).state = c.mark s e .closed := by
  unfold blocks at hb
  unfold block
  cases ht : Tags.ofJson? node with
  | none => simp [ht] at hb
  | some t =>
    simp only [ht, Except.ok.injEq] at hb
    simp [hb, h]

/-- A node that does not block changes nothing, and neither does one that cannot be read. -/
theorem state_block_of_not_blocks (s : σ) (e : ε) {c : Classifier} {node : Json}
    (hb : c.blocks node ≠ .ok true) : (c.block s e node).state = s := by
  unfold blocks at hb
  unfold block
  cases ht : Tags.ofJson? node with
  | none => rfl
  | some t =>
    simp only [ht, ne_eq, Except.ok.injEq, Bool.not_eq_true] at hb
    simp [hb, Outcome.pure]

/-! ### Closing an edge that stands for a barrier -/

theorem result_blockFirst {s : σ} {e : ε} (h : FlagStore.fault? s e = none) (c : Classifier)
    (t : Tags) (nodes : Json) :
    (c.blockFirst s e t nodes).result = (c.closes t nodes).map fun _ => () := by
  unfold blockFirst closes
  split
  · cases firstNode? nodes with
    | error f => rfl
    | ok node? =>
      cases node? with
      | none => rfl
      | some node => exact result_block h c node
  · rfl

theorem state_blockFirst_of_closes {s : σ} {e : ε} (h : FlagStore.fault? s e = none)
    {c : Classifier} {t : Tags} {nodes : Json} (hc : c.closes t nodes = .ok true) :
    (c.blockFirst s e t nodes).state = c.mark s e .closed := by
  unfold closes at hc
  unfold blockFirst
  by_cases ht : t.has barrierEdgeTag = true
  · rw [if_pos ht] at hc ⊢
    cases hn : firstNode? nodes with
    | error f =>
      rw [hn] at hc
      cases hc
    | ok node? =>
      rw [hn] at hc
      cases node? with
      | none => cases hc
      | some node => exact state_block_of_blocks h hc
  · rw [if_neg ht] at hc
    cases hc

theorem state_blockFirst_of_not_closes (s : σ) (e : ε) {c : Classifier} {t : Tags} {nodes : Json}
    (hc : c.closes t nodes ≠ .ok true) : (c.blockFirst s e t nodes).state = s := by
  unfold closes at hc
  unfold blockFirst
  by_cases ht : t.has barrierEdgeTag = true
  · rw [if_pos ht] at hc ⊢
    cases hn : firstNode? nodes with
    | error f => rfl
    | ok node? =>
      rw [hn] at hc
      cases node? with
      | none => rfl
      | some node => exact state_block_of_not_blocks s e hc
  · rw [if_neg ht]
    rfl

/-! ### Handling a way -/

/-- A way that stays out is reported, and that is all. -/
theorem handleTags_of_skip {c : Classifier} {t : Tags} (h : c.access t = .skip) (s : σ) (e : ε)
    (nodes : Json) :
    c.handleTags s e t nodes = ⟨s, [.skipped (FlagStore.label σ e) t], .ok .skip⟩ := by
  rw [handleTags, h]

/-- A way that enters the network needs an edge that can hold flags. -/
theorem handleTags_of_fault {c : Classifier} {t : Tags} (h : c.access t ≠ .skip) {s : σ} {e : ε}
    {f : Fault} (hf : FlagStore.fault? s e = some f) (nodes : Json) :
    c.handleTags s e t nodes = .fail s f := by
  unfold handleTags
  split
  · contradiction
  · rw [hf]

/-- A way that enters the network has its pair written before its nodes are asked. -/
theorem handleTags_of_senses {c : Classifier} {s : σ} {e : ε} {t : Tags} {d : Directions}
    (hs : FlagStore.fault? s e = none)
    (hd : c.senses (FlagStore.get s (c.roundaboutSlot e)) t = some d) (nodes : Json) :
    c.handleTags s e t nodes =
      (c.blockFirst (c.mark s e d) e t nodes).map fun () => c.access t := by
  unfold senses at hd
  unfold handleTags
  cases ha : c.access t with
  | skip => simp [ha] at hd
  | routable =>
    simp only [ha, Option.some.injEq] at hd
    simp only [hs, openings, hd]
  | ferry =>
    simp only [ha, Option.some.injEq] at hd
    simp only [hs, openings, hd]

/-- A way whose nodes cannot be read leaves its edge with the pair of its tags alone. -/
theorem state_handleTags_of_error {c : Classifier} {s : σ} {e : ε} {t : Tags} {d : Directions}
    {f : Fault} {nodes : Json} (hs : FlagStore.fault? s e = none)
    (hd : c.senses (FlagStore.get s (c.roundaboutSlot e)) t = some d)
    (hc : c.closes t nodes = .error f) :
    (c.handleTags s e t nodes).state = c.mark s e d := by
  rw [handleTags_of_senses hs hd, Outcome.state_map,
    state_blockFirst_of_not_closes _ _ (by simp [hc])]

theorem handle_of_unreadable {way : Json} (hw : Tags.ofJson? way = none) (c : Classifier) (s : σ)
    (e : ε) (nodes : Json) : c.handle s e way nodes = .fail s .tagsNotObject := by
  rw [handle, hw]

theorem handle_of_tags {way : Json} {t : Tags} (hw : Tags.ofJson? way = some t) (c : Classifier)
    (s : σ) (e : ε) (nodes : Json) : c.handle s e way nodes = c.handleTags s e t nodes := by
  rw [handle, hw]

/-! ### Every case of handling -/

variable [DecidableEq ε] [LawfulFlagStore σ ε]

/-- A way whose nodes can be read leaves its edge with the pair of the verdict. -/
theorem state_handleTags {c : Classifier} {s : σ} {e : ε} {t : Tags} {d : Directions} {b : Bool}
    {nodes : Json} (hs : FlagStore.fault? s e = none)
    (hd : c.senses (FlagStore.get s (c.roundaboutSlot e)) t = some d)
    (hc : c.closes t nodes = .ok b) :
    (c.handleTags s e t nodes).state = c.mark s e (if b then .closed else d) := by
  have hs' : FlagStore.fault? (c.mark s e d) e = none := by rw [fault?_mark c s hs, hs]
  rw [handleTags_of_senses hs hd, Outcome.state_map]
  -- A node that blocks overwrites the pair of the tags, which leaves no trace.
  cases b with
  | true => rw [state_blockFirst_of_closes hs' hc, mark_mark, if_pos rfl]
  | false => rw [state_blockFirst_of_not_closes _ _ (by simp [hc]), if_neg (by simp)]

/-- Handling on an edge that can hold flags answers with the access, unless there is no verdict. -/
theorem result_handleTags {s : σ} {e : ε} (hs : FlagStore.fault? s e = none) (c : Classifier)
    (t : Tags) (nodes : Json) :
    (c.handleTags s e t nodes).result =
      (c.verdict (FlagStore.get s (c.roundaboutSlot e)) t nodes).map fun _ => c.access t := by
  cases hd : c.senses (FlagStore.get s (c.roundaboutSlot e)) t with
  | none =>
    have ha := (c.senses_eq_none_iff _ t).1 hd
    rw [handleTags_of_skip ha, verdict_of_skip ha, ha]
    rfl
  | some d =>
    have hs' : FlagStore.fault? (c.mark s e d) e = none := by rw [fault?_mark c s hs, hs]
    rw [handleTags_of_senses hs hd, Outcome.result_map, result_blockFirst hs',
      verdict_of_senses hd]
    cases c.closes t nodes <;> rfl

/-- The answer of handling is the access to the way. -/
theorem eq_access_of_handleTags {c : Classifier} {s : σ} {e : ε} {t : Tags} {nodes : Json}
    {a : Access} (h : (c.handleTags s e t nodes).result = .ok a) : c.access t = a := by
  cases hs : FlagStore.fault? s e with
  | some f =>
    by_cases ha : c.access t = .skip
    · rw [handleTags_of_skip ha] at h
      exact ha.trans (Except.ok.inj h)
    · rw [handleTags_of_fault ha hs] at h
      cases h
  | none =>
    rw [result_handleTags hs] at h
    obtain ⟨pair, -, ha⟩ := Outcome.ok_of_map h
    exact ha

/-- Handling leaves its edge with the pair of the verdict, or with the flags it had if there is
    none. -/
theorem marked_handleTags {c : Classifier} {s : σ} {e : ε} {t : Tags} {nodes : Json}
    {pair : Option Directions} (hs : FlagStore.fault? s e = none)
    (hv : c.verdict (FlagStore.get s (c.roundaboutSlot e)) t nodes = .ok pair) :
    c.marked (c.handleTags s e t nodes).state e = pair.getD (c.marked s e) := by
  rcases verdict_eq_ok hv with ⟨ha, rfl⟩ | ⟨d, b, hd, hc, rfl⟩
  · rw [handleTags_of_skip ha]
    rfl
  · rw [state_handleTags hs hd hc, marked_mark]
    rfl

/-- Handling writes the access flags of its edge or nothing. -/
theorem state_handleTags_eq_or (c : Classifier) (s : σ) (e : ε) (t : Tags) (nodes : Json) :
    (c.handleTags s e t nodes).state = s ∨ ∃ d, (c.handleTags s e t nodes).state = c.mark s e d := by
  cases hd : c.senses (FlagStore.get s (c.roundaboutSlot e)) t with
  | none =>
    rw [handleTags_of_skip ((c.senses_eq_none_iff _ t).1 hd)]
    exact .inl rfl
  | some d =>
    cases hs : FlagStore.fault? s e with
    | some f =>
      rw [handleTags_of_fault (access_ne_skip hd) hs]
      exact .inl rfl
    | none =>
      cases hc : c.closes t nodes with
      | error f => exact .inr ⟨_, state_handleTags_of_error hs hd hc⟩
      | ok b => exact .inr ⟨_, state_handleTags hs hd hc⟩

/-- What handling a way given by any value can come to: what is left of the store, and the
    answer. -/
inductive Handled (c : Classifier) (s : σ) (e : ε) (way nodes : Json)
    (o : Outcome Fault Event σ Access) : Prop where
  /-- The tags of the way cannot be read. -/
  | unreadable (hw : Tags.ofJson? way = none) (hstate : o.state = s)
      (hresult : o.result = .error .tagsNotObject)
  /-- The way stays out of the network. -/
  | skipped (t : Tags) (hw : Tags.ofJson? way = some t) (ha : c.access t = .skip)
      (hstate : o.state = s) (hresult : o.result = .ok .skip)
  /-- The edge cannot hold flags. -/
  | unusable (t : Tags) (f : Fault) (hw : Tags.ofJson? way = some t) (ha : c.access t ≠ .skip)
      (hs : FlagStore.fault? s e = some f) (hstate : o.state = s) (hresult : o.result = .error f)
  /-- The first node cannot be read. -/
  | stuck (t : Tags) (d : Directions) (f : Fault) (hw : Tags.ofJson? way = some t)
      (hs : FlagStore.fault? s e = none)
      (hd : c.senses (FlagStore.get s (c.roundaboutSlot e)) t = some d)
      (hc : c.closes t nodes = .error f) (hstate : o.state = c.mark s e d)
      (hresult : o.result = .error f)
  /-- The edge has its pair. -/
  | settled (t : Tags) (d : Directions) (b : Bool) (hw : Tags.ofJson? way = some t)
      (hs : FlagStore.fault? s e = none)
      (hd : c.senses (FlagStore.get s (c.roundaboutSlot e)) t = some d)
      (hc : c.closes t nodes = .ok b) (hstate : o.state = c.mark s e (if b then .closed else d))
      (hresult : o.result = .ok (c.access t))

/-- There is no other case. -/
theorem handled (c : Classifier) (s : σ) (e : ε) (way nodes : Json) :
    c.Handled s e way nodes (c.handle s e way nodes) := by
  cases hw : Tags.ofJson? way with
  | none =>
    rw [handle_of_unreadable hw]
    exact .unreadable hw rfl rfl
  | some t =>
    rw [handle_of_tags hw]
    cases hd : c.senses (FlagStore.get s (c.roundaboutSlot e)) t with
    | none =>
      have ha := (c.senses_eq_none_iff _ t).1 hd
      rw [handleTags_of_skip ha]
      exact .skipped t hw ha rfl rfl
    | some d =>
      have ha := access_ne_skip hd
      cases hs : FlagStore.fault? s e with
      | some f =>
        rw [handleTags_of_fault ha hs]
        exact .unusable t f hw ha hs rfl rfl
      | none =>
        have hr := result_handleTags hs c t nodes
        rw [verdict_of_senses hd] at hr
        cases hc : c.closes t nodes with
        | error f =>
          rw [hc] at hr
          exact .stuck t d f hw hs hd hc (state_handleTags_of_error hs hd hc) hr
        | ok b =>
          rw [hc] at hr
          exact .settled t d b hw hs hd hc (state_handleTags hs hd hc) hr

end RoadAccess.Classifier
