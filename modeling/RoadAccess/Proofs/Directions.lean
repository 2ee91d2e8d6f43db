import Mathlib.Logic.Basic
import RoadAccess.Way.Directions

namespace RoadAccess

/-!
# Senses that the vehicle's own tag grants

A sign that closes a sense is set aside where the vehicle's own tag grants a sense, but which of the
senses is left is read off the signs whether they were set aside or not.  So a sense that is granted can
be closed all the same: it takes a sign that speaks against the sense, set aside or not, and another
reason to leave only one sense open.

* `Profile.signedForward`, `Profile.signedBackward` — the one-way signs for the vehicle itself;
* `Profile.isOneway_iff`, `Profile.runsBackward_iff` — the signs that close a sense, and those that
  say which one;
* `Profile.forwardOnly`, `Profile.backwardOnly` — the signs for each sense, set aside or not;
  `Profile.only_of_isOneway` — a sense is closed by one of them;
* `Profile.forward_eq_false_iff`, `Profile.backward_eq_false_iff` — when a sense is closed;
* `Profile.ClosesGrantedForward`, `Profile.ClosesGrantedBackward` — what closes a sense that is
  granted;
* `granted_sense_closed_iff` — nothing else does; `granted_sense_closed` — but this does.
-/

namespace Profile

/-! ### Signs -/

/-- The values of a one-way sign along the geometry. -/
def forwardOneways : List String := ["yes", "true", "1"]

/-- A one-way sign for the vehicle itself, on the road or on a lane beside it, runs along the
    geometry. -/
def signedForward (p : Profile) (t : Tags) : Bool :=
  t.hasAny p.onewayKey forwardOneways || t.anyHasAny p.sideOnewayKeys forwardOneways

/-- A one-way sign for the vehicle itself, on the road or on a lane beside it, runs against the
    geometry. -/
def signedBackward (p : Profile) (t : Tags) : Bool :=
  t.hasValue p.onewayKey reverseOneway || t.anyHasValue p.sideOnewayKeys reverseOneway

variable {p : Profile} {t : Tags} {key : String}

/-- A one-way sign runs in one of the two senses. -/
theorem hasAny_onewayValues (t : Tags) (key : String) :
    t.hasAny key onewayValues = (t.hasAny key forwardOneways || t.hasValue key reverseOneway) := by
  rw [Tags.hasAny, Tags.hasAny, Tags.hasValue]
  cases t.get? key with
  | none => rfl
  | some value => simp [onewayValues, forwardOneways, reverseOneway, Bool.or_assoc]

theorem anyHasAny_onewayValues (t : Tags) (keys : List String) :
    t.anyHasAny keys onewayValues =
      (t.anyHasAny keys forwardOneways || t.anyHasValue keys reverseOneway) := by
  rw [Bool.eq_iff_iff]
  simp only [Tags.anyHasAny, Tags.anyHasValue, hasAny_onewayValues, Bool.or_eq_true,
    List.any_eq_true, and_or_left, exists_or]

/-- A one-way sign runs in one sense only. -/
theorem hasValue_reverseOneway_of_forward (h : t.hasAny key forwardOneways = true) :
    t.hasValue key reverseOneway = false := by
  rw [Tags.hasAny, Option.any_eq_true] at h
  obtain ⟨value, hvalue, hforward⟩ := h
  rw [Tags.hasValue, hvalue, decide_eq_false_iff_not, Option.some.injEq]
  rintro rfl
  exact absurd hforward (by decide)

/-- A sign that does not run against the geometry runs along it. -/
theorem hasAny_onewayValues_and_not (t : Tags) (key : String) :
    (t.hasAny key onewayValues && !t.hasValue key reverseOneway) = t.hasAny key forwardOneways := by
  rw [hasAny_onewayValues]
  cases hforward : t.hasAny key forwardOneways with
  | false => cases t.hasValue key reverseOneway <;> rfl
  | true =>
    rw [hasValue_reverseOneway_of_forward hforward]
    rfl

/-- The signs for the vehicle itself run in one of the two senses. -/
theorem signed_eq (p : Profile) (t : Tags) :
    (t.hasAny p.onewayKey onewayValues || t.anyHasAny p.sideOnewayKeys onewayValues) =
      (p.signedForward t || p.signedBackward t) := by
  rw [hasAny_onewayValues, anyHasAny_onewayValues, signedForward, signedBackward]
  ac_rfl

/-- The signs that close a sense.  Three of them are set aside where the vehicle's own tag grants a
    sense: the general one asks for the sense that it closes, those of the class of vehicles for the
    other one. -/
theorem isOneway_iff : p.isOneway t = true ↔
    (t.hasAny "oneway" forwardOneways = true ∧ t.hasAny p.backwardKey p.intended = false) ∨
    (t.hasValue "oneway" reverseOneway = true ∧ t.hasAny p.forwardKey p.intended = false) ∨
    (p.signedForward t = true ∨ p.signedBackward t = true) ∨
    (t.hasAny "vehicle:backward" p.restricted = true ∧ t.hasAny p.forwardKey p.intended = false) ∨
    (t.hasAny "vehicle:forward" p.restricted = true ∧ t.hasAny p.backwardKey p.intended = false) ∨
    t.hasAny p.forwardKey p.restricted = true ∨ t.hasAny p.backwardKey p.restricted = true := by
  have hsigned := signed_eq p t
  rw [Bool.eq_iff_iff, Bool.or_eq_true, Bool.or_eq_true] at hsigned
  rw [← hsigned, ← hasAny_onewayValues_and_not]
  simp only [isOneway, Bool.or_eq_true, Bool.and_eq_true, Bool.not_eq_true', or_assoc]

/-- The signs that leave the sense against the geometry, set aside or not. -/
theorem runsBackward_iff : p.runsBackward t = true ↔
    t.hasValue "oneway" reverseOneway = true ∨ p.signedBackward t = true ∨
    t.hasAny "vehicle:forward" p.restricted = true ∨ t.hasAny p.forwardKey p.restricted = true := by
  simp only [runsBackward, signedBackward, Bool.or_eq_true, or_assoc]

/-- The keys of the one-way signs: the general one, that for the vehicle, and those of the lanes beside
    the road. -/
def onewayKeys (p : Profile) : List String := "oneway" :: p.onewayKey :: p.sideOnewayKeys

/-- Some sign is for the sense along the geometry only: a one-way sign along it, or a denial of the
    other sense. -/
def forwardOnly (p : Profile) (t : Tags) : Bool :=
  t.anyHasAny p.onewayKeys forwardOneways ||
    t.anyHasAny ["vehicle:backward", p.backwardKey] p.restricted

/-- Some sign is for the sense against the geometry only. -/
def backwardOnly (p : Profile) (t : Tags) : Bool :=
  t.anyHasValue p.onewayKeys reverseOneway ||
    t.anyHasAny ["vehicle:forward", p.forwardKey] p.restricted

theorem forwardOnly_iff : p.forwardOnly t = true ↔
    t.hasAny "oneway" forwardOneways = true ∨ p.signedForward t = true ∨
    t.hasAny "vehicle:backward" p.restricted = true ∨ t.hasAny p.backwardKey p.restricted = true := by
  simp only [forwardOnly, signedForward, onewayKeys, Tags.anyHasAny, List.any_cons, List.any_nil,
    Bool.or_eq_true, Bool.or_false, or_assoc]

/-- The sense that is left is the one against the geometry exactly where some sign says so. -/
theorem runsBackward_eq_backwardOnly (p : Profile) (t : Tags) :
    p.runsBackward t = p.backwardOnly t := by
  rw [Bool.eq_iff_iff, runsBackward_iff]
  simp only [backwardOnly, signedBackward, onewayKeys, Tags.anyHasAny, Tags.anyHasValue,
    List.any_cons, List.any_nil, Bool.or_eq_true, Bool.or_false, or_assoc]

/-- No sense is closed without a sign for the other one. -/
theorem only_of_isOneway (h : p.isOneway t = true) :
    p.forwardOnly t = true ∨ p.backwardOnly t = true := by
  rw [← runsBackward_eq_backwardOnly, forwardOnly_iff, runsBackward_iff]
  rcases isOneway_iff.1 h with ⟨hsign, -⟩ | ⟨hsign, -⟩ | (hsign | hsign) | ⟨hsign, -⟩ | ⟨hsign, -⟩ |
    hsign | hsign
  · exact .inl (.inl hsign)
  · exact .inr (.inl hsign)
  · exact .inl (.inr (.inl hsign))
  · exact .inr (.inr (.inl hsign))
  · exact .inl (.inr (.inr (.inl hsign)))
  · exact .inr (.inr (.inr (.inl hsign)))
  · exact .inr (.inr (.inr (.inr hsign)))
  · exact .inl (.inr (.inr (.inr hsign)))

/-! ### Closed senses -/

/-- Where a sign closes a sense and none opens it again, the sense that is left is the one that the
    signs say. -/
theorem directions_of_closing {roundabout : Bool}
    (h : (p.isOneway t = true ∨ roundabout = true) ∧ p.isReopened t = false) :
    p.directions t roundabout = ⟨!p.runsBackward t, p.runsBackward t⟩ := by
  rw [directions, if_pos]
  rw [Bool.and_eq_true, Bool.or_eq_true, Bool.not_eq_true']
  exact h

theorem directions_of_not_closing {roundabout : Bool}
    (h : ¬ ((p.isOneway t = true ∨ roundabout = true) ∧ p.isReopened t = false)) :
    p.directions t roundabout = .both := by
  rw [directions, if_neg]
  rw [Bool.and_eq_true, Bool.or_eq_true, Bool.not_eq_true']
  exact h

theorem forward_eq_false_iff {roundabout : Bool} :
    (p.directions t roundabout).forward = false ↔
      ((p.isOneway t = true ∨ roundabout = true) ∧ p.isReopened t = false) ∧
        p.runsBackward t = true := by
  by_cases h : (p.isOneway t = true ∨ roundabout = true) ∧ p.isReopened t = false
  · rw [directions_of_closing h, and_iff_right h, Bool.not_eq_false']
  · rw [directions_of_not_closing h]
    exact iff_of_false Bool.noConfusion fun hclosed => h hclosed.1

theorem backward_eq_false_iff {roundabout : Bool} :
    (p.directions t roundabout).backward = false ↔
      ((p.isOneway t = true ∨ roundabout = true) ∧ p.isReopened t = false) ∧
        p.runsBackward t = false := by
  by_cases h : (p.isOneway t = true ∨ roundabout = true) ∧ p.isReopened t = false
  · rw [directions_of_closing h, and_iff_right h]
  · rw [directions_of_not_closing h]
    exact iff_of_false Bool.noConfusion fun hclosed => h hclosed.1

/-! ### Senses that are granted -/

/-- What closes the sense along the geometry although the vehicle's own tag grants it: a general sign
    against the geometry, or a denial for the class of vehicles, and another reason to leave one sense
    only. -/
def ClosesGrantedForward (p : Profile) (t : Tags) : Prop :=
  (t.hasValue "oneway" reverseOneway = true ∧
    (p.signedForward t = true ∨ t.hasAny p.backwardKey p.restricted = true)) ∨
  (t.hasAny "vehicle:forward" p.restricted = true ∧
    (p.signedForward t = true ∨ t.hasAny p.backwardKey p.intended = false))

/-- What closes the sense against the geometry although the vehicle's own tag grants it: a denial for
    the class of vehicles, where the other sense is not granted and no sign runs against the geometry. -/
def ClosesGrantedBackward (p : Profile) (t : Tags) : Prop :=
  t.hasAny "vehicle:backward" p.restricted = true ∧ t.hasAny p.forwardKey p.intended = false ∧
    p.runsBackward t = false

instance (p : Profile) (t : Tags) : Decidable (p.ClosesGrantedForward t) :=
  inferInstanceAs (Decidable (_ ∨ _))

instance (p : Profile) (t : Tags) : Decidable (p.ClosesGrantedBackward t) :=
  inferInstanceAs (Decidable (_ ∧ _))

/-- No value of the profile both grants and denies. -/
def Consistent (p : Profile) : Prop := ∀ v ∈ p.intended, v ∉ p.restricted

/-- A tag that grants access does not deny it. -/
theorem Consistent.hasAny_restricted (h : p.Consistent) (hgranted : t.hasAny key p.intended = true) :
    t.hasAny key p.restricted = false := by
  rw [Tags.hasAny, Option.any_eq_true] at hgranted
  obtain ⟨value, hvalue, hintended⟩ := hgranted
  rw [Tags.hasAny, hvalue, Option.any_some, decide_eq_false_iff_not]
  exact h value (of_decide_eq_true hintended)

/-- A tag that denies access does not grant it. -/
theorem Consistent.hasAny_intended (h : p.Consistent) (hdenied : t.hasAny key p.restricted = true) :
    t.hasAny key p.intended = false := by
  cases hgranted : t.hasAny key p.intended with
  | false => rfl
  | true =>
    rw [h.hasAny_restricted hgranted] at hdenied
    cases hdenied

theorem consistent_bicycle (o : Options) : (bicycle o).Consistent := by
  obtain ⟨blockFords, blockPrivate⟩ := o
  unfold Consistent bicycle
  cases blockFords <;> cases blockPrivate <;> decide

/-- **What closes the sense along the geometry** where it is granted and no sign for the vehicle itself
    runs against the geometry. -/
theorem granted_forward_eq_false_iff (hp : p.Consistent)
    (hgranted : t.hasAny p.forwardKey p.intended = true) (hsign : p.signedBackward t = false) :
    (p.directions t false).forward = false ↔ p.isReopened t = false ∧ p.ClosesGrantedForward t := by
  have hnot : t.hasAny p.forwardKey p.restricted = false := hp.hasAny_restricted hgranted
  rw [forward_eq_false_iff, isOneway_iff, runsBackward_iff, ClosesGrantedForward]
  simp only [hgranted, hsign, hnot, Bool.true_eq_false, Bool.false_eq_true, and_false, or_false,
    false_or]
  constructor
  · rintro ⟨⟨hcloses, hreopened⟩, hagainst⟩
    refine ⟨hreopened, ?_⟩
    rcases hcloses with ⟨hgeneral, hother⟩ | hsigned | ⟨hvehicle, hother⟩ | hdenied
    · -- The general sign runs along the geometry, so only the class of vehicles speaks against it.
      have hreverse := hasValue_reverseOneway_of_forward hgeneral
      have hvehicle := hagainst.resolve_left (Bool.eq_false_iff.1 hreverse)
      exact .inr ⟨hvehicle, .inr hother⟩
    · rcases hagainst with hreverse | hvehicle
      · exact .inl ⟨hreverse, .inl hsigned⟩
      · exact .inr ⟨hvehicle, .inl hsigned⟩
    · exact .inr ⟨hvehicle, .inr hother⟩
    · rcases hagainst with hreverse | hvehicle
      · exact .inl ⟨hreverse, .inr hdenied⟩
      · exact .inr ⟨hvehicle, .inr (hp.hasAny_intended hdenied)⟩
  · rintro ⟨hreopened, ⟨hreverse, hsigned | hdenied⟩ | ⟨hvehicle, hsigned | hother⟩⟩
    · exact ⟨⟨.inr (.inl hsigned), hreopened⟩, .inl hreverse⟩
    · exact ⟨⟨.inr (.inr (.inr hdenied)), hreopened⟩, .inl hreverse⟩
    · exact ⟨⟨.inr (.inl hsigned), hreopened⟩, .inr hvehicle⟩
    · exact ⟨⟨.inr (.inr (.inl ⟨hvehicle, hother⟩)), hreopened⟩, .inr hvehicle⟩

/-- **What closes the sense against the geometry** where it is granted and no sign for the vehicle
    itself runs along the geometry. -/
theorem granted_backward_eq_false_iff (hp : p.Consistent)
    (hgranted : t.hasAny p.backwardKey p.intended = true) (hsign : p.signedForward t = false) :
    (p.directions t false).backward = false ↔ p.isReopened t = false ∧ p.ClosesGrantedBackward t := by
  have hnot : t.hasAny p.backwardKey p.restricted = false := hp.hasAny_restricted hgranted
  rw [backward_eq_false_iff, isOneway_iff, ClosesGrantedBackward]
  simp only [hgranted, hsign, hnot, Bool.true_eq_false, Bool.false_eq_true, and_false, or_false,
    false_or]
  constructor
  · rintro ⟨⟨hcloses, hreopened⟩, hforward⟩
    refine ⟨hreopened, ?_⟩
    -- Of the signs that are left, all others speak against the sense along the geometry.
    have hnone := Bool.eq_false_iff.1 hforward
    rw [ne_eq, runsBackward_iff, not_or, not_or, not_or] at hnone
    obtain ⟨hreverse, hsigned, -, hdenied⟩ := hnone
    rcases hcloses with ⟨hgeneral, -⟩ | hagainst | ⟨hvehicle, hother⟩ | hagainst
    · exact absurd hgeneral hreverse
    · exact absurd hagainst hsigned
    · exact ⟨hvehicle, hother, hforward⟩
    · exact absurd hagainst hdenied
  · rintro ⟨hreopened, hvehicle, hother, hforward⟩
    exact ⟨⟨.inr (.inr (.inl ⟨hvehicle, hother⟩)), hreopened⟩, hforward⟩

/-- Where both senses are granted and there is no one-way sign for the vehicle itself, both are open. -/
theorem directions_eq_both_of_granted (hp : p.Consistent)
    (hforward : t.hasAny p.forwardKey p.intended = true)
    (hbackward : t.hasAny p.backwardKey p.intended = true) (halong : p.signedForward t = false)
    (hagainst : p.signedBackward t = false) : p.directions t false = .both := by
  have hopen : (p.directions t false).forward ≠ false := by
    rw [ne_eq, granted_forward_eq_false_iff hp hforward hagainst, ClosesGrantedForward, halong,
      hbackward, hp.hasAny_restricted hbackward]
    simp
  have hopen' : (p.directions t false).backward ≠ false := by
    rw [ne_eq, granted_backward_eq_false_iff hp hbackward halong, ClosesGrantedBackward, hforward]
    simp
  exact congrArg₂ Directions.mk (Bool.ne_false_iff.1 hopen) (Bool.ne_false_iff.1 hopen')

end Profile

/-! ### Bicycles -/

/-- **What closes a sense that is granted to bicycles**, where no one-way sign for bicycles speaks
    against it.  The sense along the geometry is closed exactly if nothing opens it again and a general
    one-way sign or a denial for all vehicles speaks against it, and there is another reason to leave one
    sense only; the sense against the geometry, if nothing opens it again and vehicles are denied it,
    where the other sense is neither granted nor closed.  So two senses that are granted are open, unless
    there is a one-way sign for bicycles. -/
theorem granted_sense_closed_iff (o : Options) (t : Tags) :
    (t.hasAny "bicycle:forward" (Profile.bicycle o).intended = true →
      (Profile.bicycle o).signedBackward t = false →
      (((Profile.bicycle o).directions t false).forward = false ↔
        (Profile.bicycle o).isReopened t = false ∧ (Profile.bicycle o).ClosesGrantedForward t)) ∧
    (t.hasAny "bicycle:backward" (Profile.bicycle o).intended = true →
      (Profile.bicycle o).signedForward t = false →
      (((Profile.bicycle o).directions t false).backward = false ↔
        (Profile.bicycle o).isReopened t = false ∧ (Profile.bicycle o).ClosesGrantedBackward t)) ∧
    (t.hasAny "bicycle:forward" (Profile.bicycle o).intended = true →
      t.hasAny "bicycle:backward" (Profile.bicycle o).intended = true →
      (Profile.bicycle o).signedForward t = false → (Profile.bicycle o).signedBackward t = false →
      (Profile.bicycle o).directions t false = .both) := by
  have hp := Profile.consistent_bicycle o
  refine ⟨?_, ?_, ?_⟩
  · exact Profile.granted_forward_eq_false_iff hp
  · exact Profile.granted_backward_eq_false_iff hp
  · exact Profile.directions_eq_both_of_granted hp

/-- A sense that is granted against a general sign stays open as long as the other one is not denied,
    and two senses that are granted stay open although vehicles are denied one of them; but against a
    denial for vehicles it does not help that bicycles are granted the sense that it closes. -/
theorem granted_senses_stay_open :
    let p := Profile.bicycle {}
    let t : Tags := ⟨[("oneway", "-1"), ("bicycle:forward", "yes")]⟩
    let u : Tags := ⟨[("oneway", "-1"), ("bicycle:forward", "yes"),
      ("bicycle:backward", "designated"), ("vehicle:forward", "no")]⟩
    let v : Tags := ⟨[("vehicle:backward", "no"), ("bicycle:backward", "yes")]⟩
    ¬ p.ClosesGrantedForward t ∧ (p.directions t false).forward = true ∧
      p.directions u false = .both ∧
      p.ClosesGrantedBackward v ∧ (p.directions v false).backward = false := by
  intro p t u v
  obtain ⟨hforward, -, -⟩ := granted_sense_closed_iff {} t
  obtain ⟨-, -, hboth⟩ := granted_sense_closed_iff {} u
  obtain ⟨-, hbackward, -⟩ := granted_sense_closed_iff {} v
  have hopen : ¬ p.ClosesGrantedForward t := by decide
  have hcloses : p.ClosesGrantedBackward v := by decide
  refine ⟨hopen, ?_, ?_, hcloses, ?_⟩
  · apply Bool.ne_false_iff.1
    intro hclosed
    exact hopen ((hforward (by decide) (by decide)).1 hclosed).2
  · exact hboth (by decide) (by decide) (by decide) (by decide)
  · exact (hbackward (by decide) (by decide)).2 ⟨by decide, hcloses⟩

/-- **A sense that is granted may be closed.**  The general sign is set aside for bicycles, but once the
    other sense is denied to them it decides all the same which sense is left; and a denial for vehicles
    counts against a sense that is granted to bicycles. -/
theorem granted_sense_closed :
    (¬ ∀ (o : Options) (t : Tags),
      t.hasAny "bicycle:forward" (Profile.bicycle o).intended = true →
      (Profile.bicycle o).signedBackward t = false →
      ((Profile.bicycle o).directions t false).forward = true) ∧
    (¬ ∀ (o : Options) (t : Tags),
      t.hasAny "bicycle:backward" (Profile.bicycle o).intended = true →
      (Profile.bicycle o).signedForward t = false →
      ((Profile.bicycle o).directions t false).backward = true) := by
  constructor
  · intro h
    let t : Tags := ⟨[("oneway", "-1"), ("bicycle:forward", "yes"), ("bicycle:backward", "no")]⟩
    have hopen := h {} t (by decide) (by decide)
    exact absurd hopen (by decide)
  · intro h
    let t : Tags := ⟨[("vehicle:backward", "no"), ("bicycle:backward", "yes")]⟩
    have hopen := h {} t (by decide) (by decide)
    exact absurd hopen (by decide)

end RoadAccess
