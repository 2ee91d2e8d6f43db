import Mathlib.Data.Finset.Card
import RoadAccess.Proofs.Calls

namespace RoadAccess

/-!
# Access flags over a run of calls

A table that starts without flags, and any number of calls on it in any order.  The access flags of
an edge are only ever written as a pair, so an edge has both of them or neither, and what they are
was settled by the last call that wrote them.

* `Classifier.flags` — the two access flags of an edge, as far as they were written;
* `flags_perform_of_not_effective`, `flags_perform_of_effective` — one call;
* `flags_after_of_not_effective`, `written_after_iff` — a run of calls;
* `FlagTable.mem_edges_iff`, `FlagTable.nodup_edges` — which edges are counted, and that each is
  counted once;
* `access_flags_of_run` — the whole.
-/

/-- Of equal items only the first is kept. -/
theorem nodup_eraseDups {α : Type} [DecidableEq α] : ∀ items : List α, items.eraseDups.Nodup
  | [] => List.nodup_nil
  | a :: items => by
    have hlen : (items.filter fun b => !b == a).length < items.length + 1 :=
      Nat.lt_succ_of_le (List.length_filter_le ..)
    rw [List.eraseDups_cons, List.nodup_cons, List.mem_eraseDups, List.mem_filter]
    exact ⟨by simp, nodup_eraseDups _⟩
  termination_by items => items.length

/-! ### Flags that were written -/

namespace FlagTable

/-- The value that was written to a slot last. -/
def find? (t : FlagTable) (slot : Slot Identifier) : Option Bool := t.entries.lookup slot

@[simp] theorem find?_empty (slot : Slot Identifier) : empty.find? slot = none := rfl

theorem find?_set (t : FlagTable) (slot slot' : Slot Identifier) (b : Bool) :
    (t.set slot b).find? slot' = if slot' = slot then some b else t.find? slot' :=
  Keyed.lookup_put ..

/-! ### Counting edges -/

/-- The edges with a flag under a key are those with a flag that was written under it. -/
theorem mem_edges_iff (t : FlagTable) (key : String) (e : Identifier) :
    e ∈ t.edges key ↔ ∃ reverse, t.written ⟨key, e, reverse⟩ = true := by
  simp only [edges, written, List.mem_eraseDups, Keyed.lookup_isSome_iff, Keyed.keys,
    List.mem_map, List.mem_filter, decide_eq_true_eq]
  constructor
  · rintro ⟨⟨⟨key', e', reverse⟩, b⟩, ⟨hmem, rfl⟩, rfl⟩
    exact ⟨reverse, _, hmem, rfl⟩
  · rintro ⟨reverse, ⟨slot, b⟩, hmem, rfl⟩
    exact ⟨_, ⟨hmem, rfl⟩, rfl⟩

/-- An edge with two flags is counted once. -/
theorem nodup_edges (t : FlagTable) (key : String) : (t.edges key).Nodup := nodup_eraseDups _

end FlagTable

namespace Classifier

variable {c : Classifier}

/-- The access flags of an edge, as far as they were written. -/
def flags (c : Classifier) (t : FlagTable) (e : Identifier) : Option Bool × Option Bool :=
  (t.find? (c.accessSlot e false), t.find? (c.accessSlot e true))

/-- A mark is a pair of flags, and no other edge sees it. -/
theorem flags_mark (c : Classifier) (t : FlagTable) (e e' : Identifier) (d : Directions) :
    c.flags (c.mark t e d) e' =
      if e' = e then (some d.forward, some d.backward) else c.flags t e' := by
  show c.flags ((t.set (c.accessSlot e false) d.forward).set (c.accessSlot e true) d.backward) e' = _
  simp only [flags, FlagTable.find?_set, accessSlot, Slot.mk.injEq]
  by_cases he : e' = e <;> simp [he]

/-- A flag with another key is no access flag. -/
theorem flags_set_of_key_ne (t : FlagTable) {slot : Slot Identifier} (h : slot.key ≠ c.accessKey)
    (b : Bool) (e : Identifier) : c.flags (t.set slot b) e = c.flags t e := by
  have hne : ∀ reverse, c.accessSlot e reverse ≠ slot := fun reverse hs => h (hs ▸ rfl)
  simp only [flags, FlagTable.find?_set, if_neg (hne _)]

/-! ### One call -/

/-- A call that is not effective leaves the access flags of every edge as they are, and an effective
    one those of every other edge. -/
theorem flags_perform_of_not_effective {call : Call Identifier} {e : Identifier}
    (hspares : c.Spares call) (h : call.edge = e → c.effective call = false) (t : FlagTable) :
    c.flags (c.perform t call).state e = c.flags t e := by
  cases c.performed t call with
  | kept _ hstate => rw [hstate]
  | wrote slot b hcall hstate =>
    subst hcall
    rw [hstate]
    exact flags_set_of_key_ne t hspares b e
  | marked d heffective _ hstate =>
    have hne : e ≠ call.edge := fun he => by
      rw [h he.symm] at heffective
      cases heffective
    rw [hstate, flags_mark, if_neg hne]

/-- An effective call that succeeds leaves its edge with the pair that it produces. -/
theorem flags_perform_of_effective {call : Call Identifier} {t : FlagTable} {reply : Reply}
    (heffective : c.effective call = true) (h : (c.perform t call).result = .ok reply) :
    ∃ d, c.produced (t.get (c.roundaboutSlot call.edge)) call = some d ∧
      c.flags (c.perform t call).state call.edge = (some d.forward, some d.backward) := by
  cases c.performed t call with
  | kept hfails _ =>
    obtain ⟨f, hf⟩ := hfails heffective
    rw [hf] at h
    cases h
  | wrote slot b hcall _ =>
    subst hcall
    cases heffective
  | marked d _ hproduced hstate =>
    refine ⟨d, hproduced reply h, ?_⟩
    rw [hstate, flags_mark, if_pos rfl]

/-- Both access flags of the edge are written, or neither is. -/
def Paired (c : Classifier) (t : FlagTable) (e : Identifier) : Prop :=
  (c.flags t e).1.isSome = (c.flags t e).2.isSome

/-- No call writes one access flag without the other, not even one that fails. -/
theorem paired_perform {call : Call Identifier} {t : FlagTable} {e : Identifier}
    (hspares : c.Spares call) (h : c.Paired t e) : c.Paired (c.perform t call).state e := by
  unfold Paired at h ⊢
  cases c.performed t call with
  | kept _ hstate => rwa [hstate]
  | wrote slot b hcall hstate =>
    subst hcall
    rw [hstate]
    show (c.flags (t.set slot b) e).1.isSome = (c.flags (t.set slot b) e).2.isSome
    rwa [flags_set_of_key_ne t hspares]
  | marked d _ _ hstate =>
    rw [hstate, flags_mark]
    split
    · rfl
    · exact h

/-! ### Several calls -/

/-- Calls that do not write single access flags keep the flags of every edge paired. -/
theorem paired_after {calls : List (Call Identifier)} {t : FlagTable} {e : Identifier}
    (hspares : ∀ call ∈ calls, c.Spares call) (h : c.Paired t e) :
    c.Paired (c.after t calls) e := by
  induction calls generalizing t with
  | nil => exact h
  | cons call calls ih =>
    rw [List.forall_mem_cons] at hspares
    exact ih hspares.2 (paired_perform hspares.1 h)

/-- Calls that are not effective on an edge leave its access flags as they are. -/
theorem flags_after_of_not_effective {calls : List (Call Identifier)} {e : Identifier}
    (hspares : ∀ call ∈ calls, c.Spares call)
    (h : ∀ call ∈ calls, call.edge = e → c.effective call = false) (t : FlagTable) :
    c.flags (c.after t calls) e = c.flags t e := by
  induction calls generalizing t with
  | nil => rfl
  | cons call calls ih =>
    rw [List.forall_mem_cons] at hspares h
    rw [after_cons, ih hspares.2 h.2, flags_perform_of_not_effective hspares.1 h.1]

/-- The access flags of an edge are those that the last effective call on it produced. -/
theorem flags_after_of_effective {before rest : List (Call Identifier)} {call : Call Identifier}
    {t : FlagTable} (hspares : ∀ later ∈ rest, c.Spares later)
    (heffective : c.effective call = true)
    (hlast : ∀ later ∈ rest, later.edge = call.edge → c.effective later = false)
    (hsucceeds : c.Succeeds t (before ++ call :: rest)) :
    ∃ d, c.produced ((c.after t before).get (c.roundaboutSlot call.edge)) call = some d ∧
      c.flags (c.after t (before ++ call :: rest)) call.edge =
        (some d.forward, some d.backward) := by
  -- The pair is written by the call itself, and no later call touches it.
  obtain ⟨-, ⟨reply, hreply⟩, -⟩ := (succeeds_append c t before (call :: rest)).1 hsucceeds
  obtain ⟨d, hproduced, hflags⟩ := flags_perform_of_effective heffective hreply
  refine ⟨d, hproduced, ?_⟩
  rw [after_append, after_cons, flags_after_of_not_effective hspares hlast, hflags]

/-- When no call fails, an edge has access flags if it had them before or if a call was effective
    on it. -/
theorem written_after_iff {calls : List (Call Identifier)} {t : FlagTable} (e : Identifier)
    (hspares : ∀ call ∈ calls, c.Spares call) (hsucceeds : c.Succeeds t calls) :
    (c.flags (c.after t calls) e).1.isSome = true ↔
      (c.flags t e).1.isSome = true ∨ ∃ call ∈ calls, c.effective call = true ∧ call.edge = e := by
  induction calls generalizing t with
  | nil => simp
  | cons call calls ih =>
    rw [List.forall_mem_cons] at hspares
    obtain ⟨⟨reply, hreply⟩, hsucceeds⟩ := hsucceeds
    -- The call is moved over to the flags that were there before the later calls.
    rw [after_cons, ih hspares.2 hsucceeds, List.exists_mem_cons_iff, ← or_assoc]
    refine or_congr_left ?_
    by_cases hcall : c.effective call = true ∧ call.edge = e
    · obtain ⟨heffective, rfl⟩ := hcall
      obtain ⟨d, -, hflags⟩ := flags_perform_of_effective heffective hreply
      simp [hflags, heffective]
    · have hnot : call.edge = e → c.effective call = false := fun he =>
        Bool.eq_false_iff.2 fun h => hcall ⟨h, he⟩
      rw [flags_perform_of_not_effective hspares.1 hnot]
      simp only [hcall, or_false]

/-- Every edge with access flags is counted once. -/
theorem edgeCount_after {calls : List (Call Identifier)}
    (hspares : ∀ call ∈ calls, c.Spares call) (hsucceeds : c.Succeeds FlagTable.empty calls) :
    (c.after FlagTable.empty calls).edgeCount c.accessKey =
      ((calls.filter c.effective).map Call.edge).toFinset.card := by
  have hmem : ∀ e, e ∈ (c.after FlagTable.empty calls).edges c.accessKey ↔
      e ∈ (calls.filter c.effective).map Call.edge := by
    intro e
    have hpaired : c.Paired (c.after FlagTable.empty calls) e := paired_after hspares rfl
    have hwritten := written_after_iff e hspares hsucceeds
    -- Either sense would do, since the flags come in pairs.
    rw [FlagTable.mem_edges_iff, Bool.exists_bool]
    show (c.flags _ e).1.isSome = true ∨ (c.flags _ e).2.isSome = true ↔ _
    rw [← show (c.flags _ e).1.isSome = (c.flags _ e).2.isSome from hpaired, or_self, hwritten]
    simp [flags, and_assoc]
  rw [FlagTable.edgeCount, ← List.toFinset_card_of_nodup (FlagTable.nodup_edges ..)]
  congr 1
  ext e
  rw [List.mem_toFinset, List.mem_toFinset, hmem]

/-! ### The whole run -/

/-- **The access flags of a run.**  On a table that starts empty every edge has both access flags or
    neither, whatever calls were made and whether they failed or not, and a call leaves those of an
    edge alone unless it is effective on it.  If no call fails, the access flags of an edge are the
    pair that the last effective call on it produced, an edge without such a call has none, and the
    edges that are counted are those with such a call. -/
theorem access_flags_of_run (c : Classifier) (calls : List (Call Identifier))
    (hspares : ∀ call ∈ calls, c.Spares call) :
    (∀ e, (c.after FlagTable.empty calls).written (c.accessSlot e false) =
      (c.after FlagTable.empty calls).written (c.accessSlot e true)) ∧
    (∀ before call rest, calls = before ++ call :: rest →
      ∀ e, (call.edge = e → c.effective call = false) →
        c.flags (c.after FlagTable.empty (before ++ [call])) e =
          c.flags (c.after FlagTable.empty before) e) ∧
    (c.Succeeds FlagTable.empty calls →
      (∀ before call rest, calls = before ++ call :: rest → c.effective call = true →
        (∀ later ∈ rest, later.edge = call.edge → c.effective later = false) →
        ∃ d, c.produced ((c.after FlagTable.empty before).get (c.roundaboutSlot call.edge)) call =
            some d ∧
          c.flags (c.after FlagTable.empty calls) call.edge = (some d.forward, some d.backward)) ∧
      (∀ e, (∀ call ∈ calls, call.edge = e → c.effective call = false) →
        c.flags (c.after FlagTable.empty calls) e = (none, none)) ∧
      (c.after FlagTable.empty calls).edgeCount c.accessKey =
        ((calls.filter c.effective).map Call.edge).toFinset.card) := by
  refine ⟨fun e => ?_, ?_, fun hsucceeds => ⟨?_, ?_, edgeCount_after hspares hsucceeds⟩⟩
  · exact paired_after hspares (show c.Paired FlagTable.empty e from rfl)
  · rintro before call rest rfl e hnot
    rw [List.forall_mem_append, List.forall_mem_cons] at hspares
    rw [after_append, after_cons, after_nil, flags_perform_of_not_effective hspares.2.1 hnot]
  · rintro before call rest rfl heffective hlast
    rw [List.forall_mem_append, List.forall_mem_cons] at hspares
    exact flags_after_of_effective hspares.2.2 heffective hlast hsucceeds
  · intro e hnone
    rw [flags_after_of_not_effective hspares hnone]
    rfl

/-- A street that is closed by a fence and handled again, another one on a roundabout, and a third one
    that is handled and then closed by a fence; in between, a way that stays out. -/
theorem access_flags_of_roundabout_run :
    let c : Classifier := {}
    let street := Json.object [("highway", .text "tertiary")]
    let fence := Json.object [("barrier", .text "fence")]
    let roundabout := Call.write ⟨"roundabout", .int 2, false⟩ true
    let skipped := Call.handle (.int 1) (.object [("highway", .text "proposed")]) .null
    let calls : List (Call Identifier) :=
      [.block (.int 1) fence, .handle (.int 1) street .null, roundabout,
        .handle (.int 2) street .null, skipped, .handle (.int 3) street .null, .block (.int 3) fence]
    (∀ call ∈ calls, c.Spares call) ∧ c.Succeeds FlagTable.empty calls ∧
      c.flags (c.after FlagTable.empty (calls.take 1)) (.int 1) = (some false, some false) ∧
      c.flags (c.after FlagTable.empty calls) (.int 1) = (some true, some true) ∧
      c.flags (c.after FlagTable.empty calls) (.int 2) = (some true, some false) ∧
      c.flags (c.after FlagTable.empty calls) (.int 3) = (some false, some false) ∧
      (c.after FlagTable.empty calls).edgeCount "bike_access" = 3 := by
  intro c street fence roundabout skipped calls
  have hspares : ∀ call ∈ calls, c.Spares call := by
    simp [calls, roundabout, skipped, Spares, c]
  have hsparesFirst : ∀ call ∈ calls.take 1, c.Spares call := fun call hcall =>
    hspares call (List.mem_of_mem_take hcall)
  have hsucceeds : c.Succeeds FlagTable.empty calls :=
    ⟨⟨_, rfl⟩, ⟨_, rfl⟩, ⟨_, rfl⟩, ⟨_, rfl⟩, ⟨_, rfl⟩, ⟨_, rfl⟩, ⟨_, rfl⟩, trivial⟩
  have hsucceedsFirst : c.Succeeds FlagTable.empty (calls.take 1) := ⟨⟨_, rfl⟩, trivial⟩
  obtain ⟨hfirst, -, -⟩ := (access_flags_of_run c _ hsparesFirst).2.2 hsucceedsFirst
  obtain ⟨hlast, -, hcount⟩ := (access_flags_of_run c calls hspares).2.2 hsucceeds
  obtain ⟨d₀, hd₀, hflags₀⟩ := hfirst [] (.block (.int 1) fence) _ rfl rfl (by decide)
  obtain ⟨d₁, hd₁, hflags₁⟩ := hlast (calls.take 1) (.handle (.int 1) street .null) _ rfl rfl
    (by decide)
  obtain ⟨d₂, hd₂, hflags₂⟩ := hlast (calls.take 3) (.handle (.int 2) street .null) _ rfl rfl
    (by decide)
  obtain ⟨d₃, hd₃, hflags₃⟩ := hlast (calls.take 6) (.block (.int 3) fence) _ rfl rfl (by decide)
  obtain rfl := Option.some.inj hd₀
  obtain rfl := Option.some.inj hd₁
  obtain rfl := Option.some.inj hd₂
  obtain rfl := Option.some.inj hd₃
  exact ⟨hspares, hsucceeds, hflags₀, hflags₁, hflags₂, hflags₃, hcount⟩

end Classifier

end RoadAccess
