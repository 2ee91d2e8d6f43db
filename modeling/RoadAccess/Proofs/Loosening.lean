import Mathlib.Data.Nat.Basic
import Mathlib.Order.Lattice
import RoadAccess.Barrier
import RoadAccess.Command.Invocation
import RoadAccess.Tags.Route
import RoadAccess.Way.Access

namespace RoadAccess

/-!
# Loosening a profile

A profile is loosened by denying fewer values, granting more of them, knowing more kinds of highway
and fewer motorways and barriers, and by no longer minding fords.  Whatever was open stays open.

* `Restriction.rank` — outcomes of the restriction keys in order, a denial lowest;
* `Profile.LoosenedTo` — one profile is a loosening of another;
* `restriction_le` — the restriction keys never say less;
* `access_eq_of_loosenedTo` — a way that enters the network still enters it, and in the same way;
* `isBarrier_of_loosenedTo` — no node becomes a barrier;
* `bicycle_loosenedTo` — what the options and the flags of a command line can do of this.
-/

/-! ### The order of outcomes -/

namespace Restriction

/-- How favourable an outcome is: a denial less than silence, silence less than a permission. -/
def rank : Restriction → Nat
  | .deny => 0
  | .noMatch => 1
  | .allow => 2

theorem rank_injective : Function.Injective rank := by
  intro a b
  cases a <;> cases b <;> decide

instance : LinearOrder Restriction := LinearOrder.lift' rank rank_injective

example : deny < noMatch ∧ noMatch < allow := by decide

theorem deny_le (a : Restriction) : deny ≤ a := Nat.zero_le _

theorem noMatch_le_iff {a : Restriction} : noMatch ≤ a ↔ a ≠ deny := by
  cases a <;> decide

theorem allow_le_iff {a : Restriction} : allow ≤ a ↔ a = allow := by
  cases a <;> decide

theorem le_deny_iff {a : Restriction} : a ≤ deny ↔ a = deny := by
  cases a <;> decide

end Restriction

namespace Profile

/-! ### Loosened profiles -/

/-- The second profile is a loosening of the first: the same keys are asked, fewer values deny,
    more values grant, and nothing else stands in the way more often. -/
structure LoosenedTo (p q : Profile) : Prop where
  vehicle : q.vehicle = p.vehicle
  restrictionKeys : q.restrictionKeys = p.restrictionKeys
  restricted : q.restricted ⊆ p.restricted
  intended : p.intended ⊆ q.intended
  allowedHighways : p.allowedHighways ⊆ q.allowedHighways
  motorways : q.motorways ⊆ p.motorways
  barriers : q.barriers ⊆ p.barriers
  blockFords : q.blockFords = true → p.blockFords = true

variable {p q : Profile}

theorem any_mem_of_subset {values as bs : List String} (h : as ⊆ bs)
    (ha : values.any (· ∈ as) = true) : values.any (· ∈ bs) = true := by
  simp only [List.any_eq_true, decide_eq_true_eq] at ha ⊢
  obtain ⟨v, hv, hm⟩ := ha
  exact ⟨v, hv, h hm⟩

theorem hasAny_of_subset {t : Tags} {key : String} {as bs : List String} (h : as ⊆ bs)
    (ha : t.hasAny key as = true) : t.hasAny key bs = true := by
  simp only [Tags.hasAny, Option.any_eq_true, decide_eq_true_eq] at ha ⊢
  obtain ⟨v, hv, hm⟩ := ha
  exact ⟨v, hv, h hm⟩

/-! ### Restrictions -/

/-- On the same sub-values a loosened profile is at least as favourable. -/
theorem judge_le (h : p.LoosenedTo q) (values : List String) : p.judge values ≤ q.judge values := by
  unfold judge
  by_cases hp : values.any (· ∈ p.restricted) = true
  · rw [if_pos hp]
    exact Restriction.deny_le _
  · -- What the first profile does not deny the second does not deny either.
    have hq : ¬ values.any (· ∈ q.restricted) = true :=
      fun hq => hp (any_mem_of_subset h.restricted hq)
    rw [if_neg hp, if_neg hq]
    by_cases hi : values.any (· ∈ p.intended) = true
    · rw [if_pos hi, if_pos (any_mem_of_subset h.intended hi)]
    · rw [if_neg hi, Restriction.noMatch_le_iff]
      split <;> decide

/-- The first key with a sub-value is the same one under both profiles. -/
theorem restrictionAmong_le (h : p.LoosenedTo q) (t : Tags) (keys : List String) :
    p.restrictionAmong t keys ≤ q.restrictionAmong t keys := by
  induction keys with
  | nil => exact le_rfl
  | cons key keys ih =>
    by_cases hv : t.values key = []
    · rw [restrictionAmong_cons_of_nil p t keys hv, restrictionAmong_cons_of_nil q t keys hv]
      exact ih
    · rw [restrictionAmong_cons_of_ne_nil p t keys hv, restrictionAmong_cons_of_ne_nil q t keys hv]
      exact judge_le h _

/-- Under a loosened profile the restriction keys never say less. -/
theorem restriction_le (h : p.LoosenedTo q) (t : Tags) : p.restriction t ≤ q.restriction t := by
  rw [restriction, restriction, h.restrictionKeys]
  exact restrictionAmong_le h t _

theorem restriction_ne_deny (h : p.LoosenedTo q) {t : Tags} (hp : p.restriction t ≠ .deny) :
    q.restriction t ≠ .deny :=
  fun hq => hp (Restriction.le_deny_iff.1 (hq ▸ restriction_le h t))

/-! ### Ways -/

/-- A way of this kind of highway enters the network, in the one manner there is for it. -/
theorem highwayAccess_eq_routable_iff (p : Profile) (t : Tags) (highway : String) :
    p.highwayAccess t highway = .routable ↔
      highway ∈ p.allowedHighways ∧
        (t.hasValue p.vehicle "dismount" = true ∨
          (t.hasAny p.vehicle p.intended = true ∨ p.needsOwnPermission t highway = false) ∧
            p.restriction t ≠ .deny) := by
  unfold highwayAccess
  by_cases ha : highway ∈ p.allowedHighways
  · by_cases hd : t.hasValue p.vehicle "dismount" = true
    · simp [ha, hd]
    · by_cases hr : p.restriction t = .deny <;>
        cases t.hasAny p.vehicle p.intended <;> cases p.needsOwnPermission t highway <;>
          simp [ha, hd, hr]
  · simp [ha]

/-- A way with a kind of highway is never a ferry. -/
theorem highwayAccess_eq_routable {t : Tags} {highway : String}
    (h : p.highwayAccess t highway ≠ .skip) : p.highwayAccess t highway = .routable := by
  unfold highwayAccess at h ⊢
  split
  · next ha => exact absurd (if_pos ha) h
  · next ha =>
    rw [if_neg ha] at h
    split
    · rfl
    · next hd =>
      rw [if_neg hd] at h
      split
      · next hn => exact absurd (if_pos hn) h
      · next hn =>
        rw [if_neg hn] at h
        split
        · next hr => exact absurd (if_pos hr) h
        · rfl

/-- What needs no permission of its own under a profile needs none under a loosened one. -/
theorem needsOwnPermission_of_loosenedTo (h : p.LoosenedTo q) {t : Tags} {highway : String}
    (hp : p.needsOwnPermission t highway = false) : q.needsOwnPermission t highway = false := by
  simp only [needsOwnPermission, Bool.or_eq_false_iff, Bool.and_eq_false_iff,
    decide_eq_false_iff_not] at hp ⊢
  obtain ⟨⟨hm, hroad⟩, hford⟩ := hp
  refine ⟨⟨fun hq => hm (h.motorways hq), hroad⟩, ?_⟩
  rcases hford with hford | hford
  · left
    exact Bool.eq_false_iff.2 fun hq => by simp [h.blockFords hq] at hford
  · exact .inr hford

theorem highwayAccess_of_loosenedTo (h : p.LoosenedTo q) {t : Tags} {highway : String}
    (hp : p.highwayAccess t highway = .routable) : q.highwayAccess t highway = .routable := by
  rw [highwayAccess_eq_routable_iff] at hp ⊢
  obtain ⟨hallowed, hrest⟩ := hp
  refine ⟨h.allowedHighways hallowed, ?_⟩
  rw [h.vehicle]
  -- Both the vehicle's own permission and its being needless survive the loosening.
  rcases hrest with hdismount | ⟨hown, hdeny⟩
  · exact .inl hdismount
  · refine .inr ⟨?_, restriction_ne_deny h hdeny⟩
    exact hown.imp (hasAny_of_subset h.intended) (needsOwnPermission_of_loosenedTo h)

theorem otherAccess_of_loosenedTo (h : p.LoosenedTo q) (isFerry : Tags → Bool) {t : Tags}
    (hp : p.otherAccess isFerry t ≠ .skip) : q.otherAccess isFerry t = p.otherAccess isFerry t := by
  unfold otherAccess at hp ⊢
  split at hp
  · next hplatform => simp [hplatform]
  · next hplatform =>
    rw [if_neg hplatform, if_neg hplatform]
    have hle := restriction_le h t
    cases hr : p.restriction t with
    | deny => simp [hr] at hp
    | allow =>
      rw [hr, Restriction.allow_le_iff] at hle
      rw [hle]
    | noMatch =>
      -- A way on which the keys are silent is a ferry, so a permission makes it one too.
      have hferry : isFerry t = true ∧ t.hasValue "foot" "yes" = false := by
        simpa [hr] using hp
      rw [hr, Restriction.noMatch_le_iff] at hle
      cases hq : q.restriction t with
      | deny => exact absurd hq hle
      | allow => simp [hferry]
      | noMatch => rfl

/-- A way that enters the network enters it in the same way under a loosened profile. -/
theorem access_eq_of_loosenedTo (h : p.LoosenedTo q) (isFerry : Tags → Bool) {t : Tags}
    (hp : p.access isFerry t ≠ .skip) : q.access isFerry t = p.access isFerry t := by
  unfold access at hp ⊢
  cases hh : t.get? "highway" with
  | none =>
    simp only [hh] at hp
    exact otherAccess_of_loosenedTo h isFerry hp
  | some highway =>
    simp only [hh] at hp
    have hr := highwayAccess_eq_routable hp
    show q.highwayAccess t highway = p.highwayAccess t highway
    rw [hr, highwayAccess_of_loosenedTo h hr]

/-! ### Nodes -/

/-- A loosened profile has no barrier that was none before. -/
theorem isBarrier_of_loosenedTo (h : p.LoosenedTo q) {node : Tags} (hq : q.isBarrier node = true) :
    p.isBarrier node = true := by
  have hle := restriction_le h node
  -- Only where neither profile says anything do the other tags of the node count for both.
  unfold isBarrier at hq ⊢
  cases hr : p.restriction node with
  | deny => rfl
  | allow =>
    rw [hr, Restriction.allow_le_iff] at hle
    simp [hle] at hq
  | noMatch =>
    cases hr' : q.restriction node with
    | deny =>
      rw [hr, hr'] at hle
      exact absurd hle (by decide)
    | allow => simp [hr'] at hq
    | noMatch =>
      simp only [hr', Bool.or_eq_true, Bool.and_eq_true] at hq ⊢
      rcases hq with (hlocked | hbarrier) | ⟨hfords, hford⟩
      · exact .inl (.inl hlocked)
      · exact .inl (.inr (hasAny_of_subset h.barriers hbarrier))
      · exact .inr ⟨h.blockFords hfords, hford⟩

/-! ### Bicycles -/

/-- Options that block less loosen the profile of bicycles. -/
theorem bicycle_loosenedTo {o o' : Options} (hfords : o'.blockFords = true → o.blockFords = true)
    (hprivate : o'.blockPrivate = true → o.blockPrivate = true) :
    (bicycle o).LoosenedTo (bicycle o') where
  vehicle := rfl
  restrictionKeys := rfl
  restricted := by
    cases h : o.blockPrivate <;> cases h' : o'.blockPrivate <;> simp_all [bicycle]
  intended := by
    cases h : o.blockPrivate <;> cases h' : o'.blockPrivate <;> simp_all [bicycle]
  allowedHighways := fun _ h => h
  motorways := fun _ h => h
  barriers := fun _ h => h
  blockFords := hfords

end Profile

/-! ### The whole -/

/-- **Loosening a profile takes no access away.**  A way that enters the network still does, and in
    the same way; the restriction keys never say less; no node becomes a barrier.  Options and
    flags that block less loosen the profile of bicycles in this sense. -/
theorem loosening_keeps_access :
    (∀ p q : Profile, p.LoosenedTo q → ∀ (isFerry : Tags → Bool) (t : Tags),
      (p.access isFerry t ≠ .skip → q.access isFerry t = p.access isFerry t) ∧
        p.restriction t ≤ q.restriction t ∧
        (q.isBarrier t = true → p.isBarrier t = true)) ∧
    (∀ (s s' : Command.Settings) (o o' : Options),
      (s.allowPrivate = true → s'.allowPrivate = true) →
      (s'.blockFords = true → s.blockFords = true) →
      (o'.blockPrivate = true → o.blockPrivate = true) →
      (o'.blockFords = true → o.blockFords = true) →
      (Profile.bicycle (s.applyFlags o)).LoosenedTo (Profile.bicycle (s'.applyFlags o'))) := by
  refine ⟨?_, ?_⟩
  · intro p q h isFerry t
    exact ⟨Profile.access_eq_of_loosenedTo h isFerry, Profile.restriction_le h t,
      Profile.isBarrier_of_loosenedTo h⟩
  · intro s s' o o' hallow hford hprivate hfords
    apply Profile.bicycle_loosenedTo
    · intro h
      simp only [Command.Settings.applyFlags, Bool.or_eq_true] at h ⊢
      exact h.imp hfords hford
    · intro h
      simp only [Command.Settings.applyFlags, Bool.and_eq_true, Bool.not_eq_true'] at h ⊢
      exact ⟨hprivate h.1, Bool.eq_false_iff.2 fun ha => by simp [hallow ha] at h⟩

/-- A private track that bicycles may use, and a private one where nothing is said of them, when
    private access no longer denies. -/
theorem loosening_keeps_private_tracks :
    (Profile.bicycle {}).LoosenedTo (Profile.bicycle { blockPrivate := false }) ∧
      (Profile.bicycle { blockPrivate := false }).access Tags.isFerry
          ⟨[("highway", "track"), ("bicycle", "yes"), ("access", "private")]⟩ = .routable ∧
      (Profile.bicycle {}).restriction ⟨[("highway", "track"), ("access", "private")]⟩ ≤
        (Profile.bicycle { blockPrivate := false }).restriction
          ⟨[("highway", "track"), ("access", "private")]⟩ := by
  have h : (Profile.bicycle {}).LoosenedTo (Profile.bicycle { blockPrivate := false }) :=
    loosening_keeps_access.2 {} {} {} { blockPrivate := false } id id nofun id
  refine ⟨h, ?_, (loosening_keeps_access.1 _ _ h Tags.isFerry _).2.1⟩
  rw [(loosening_keeps_access.1 _ _ h _ _).1 (by decide)]
  decide

end RoadAccess
