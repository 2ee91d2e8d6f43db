import RoadAccess.Proofs.Directions
import RoadAccess.Proofs.Loosening

namespace RoadAccess

/-!
# Senses under a loosened profile

A profile that denies fewer values and grants more of them has fewer signs that close a sense, so a sense
along the geometry that is open stays open.  The sense against the geometry may be open only because the
other one is denied, though: a way keeps one sense at least.  Once nothing denies that other sense any
more and the way is a one-way all the same, the two senses change places.

* `Profile.SameLanes` — two profiles read the same signs of lanes;
* `Profile.isOneway_of_loosenedTo`, `Profile.backwardOnly_of_loosenedTo`,
  `Profile.isReopened_of_loosenedTo` — the signs under a loosened profile;
* `Profile.forward_of_loosenedTo` — the sense along the geometry stays open;
* `Profile.Turns`, `Profile.backward_closed_iff` — what closes the sense against it;
* `Profile.directions_of_turns` — then the two senses change places;
* `unblocking_private_keeps_directions` — the whole for private access of bicycles;
  `unblocking_private_closes_backward` — a way that is turned round.
-/

namespace Profile

/-- The two profiles look for lanes under the same keys and for the same kinds of them. -/
structure SameLanes (p q : Profile) : Prop where
  sideOnewayKeys : q.sideOnewayKeys = p.sideOnewayKeys
  oppositeLaneKeys : q.oppositeLaneKeys = p.oppositeLaneKeys
  oppositeLaneValues : q.oppositeLaneValues = p.oppositeLaneValues
  bothSidesKey : q.bothSidesKey = p.bothSidesKey

/-! ### Signs -/

theorem hasAny_eq_false_of_subset {t : Tags} {key : String} {as bs : List String} (h : as ⊆ bs)
    (hb : t.hasAny key bs = false) : t.hasAny key as = false := by
  rw [Bool.eq_false_iff] at hb ⊢
  exact fun ha => hb (hasAny_of_subset h ha)

theorem anyHasAny_of_subset {t : Tags} {keys as bs : List String} (h : as ⊆ bs)
    (ha : t.anyHasAny keys as = true) : t.anyHasAny keys bs = true := by
  rw [Tags.anyHasAny, List.any_eq_true] at ha ⊢
  obtain ⟨key, hkey, hvalue⟩ := ha
  exact ⟨key, hkey, hasAny_of_subset h hvalue⟩

/-- The rules for the vehicle stand under the same keys. -/
theorem LoosenedTo.ownKeys {p q : Profile} (h : p.LoosenedTo q) :
    q.onewayKey = p.onewayKey ∧ q.forwardKey = p.forwardKey ∧ q.backwardKey = p.backwardKey := by
  rw [onewayKey, onewayKey, forwardKey, forwardKey, backwardKey, backwardKey, h.vehicle]
  exact ⟨rfl, rfl, rfl⟩

section Loosened

variable {p q : Profile} {t : Tags} (h : p.LoosenedTo q) (hl : p.SameLanes q)
include h hl

/-- A sign that closes a sense under a loosened profile closes one before. -/
theorem isOneway_of_loosenedTo (hq : q.isOneway t = true) : p.isOneway t = true := by
  obtain ⟨honeway, hforward, hbackward⟩ := h.ownKeys
  have hsigned : q.signedForward t = p.signedForward t := by
    rw [signedForward, signedForward, honeway, hl.sideOnewayKeys]
  have hsigned' : q.signedBackward t = p.signedBackward t := by
    rw [signedBackward, signedBackward, honeway, hl.sideOnewayKeys]
  rw [isOneway_iff, hforward, hbackward, hsigned, hsigned'] at hq
  rw [isOneway_iff]
  -- A denial was one before, and a permission that was missing is missing no less before.
  rcases hq with ⟨hsign, hgrant⟩ | ⟨hsign, hgrant⟩ | hsign | ⟨hsign, hgrant⟩ | ⟨hsign, hgrant⟩ |
    hsign | hsign
  · exact .inl ⟨hsign, hasAny_eq_false_of_subset h.intended hgrant⟩
  · exact .inr (.inl ⟨hsign, hasAny_eq_false_of_subset h.intended hgrant⟩)
  · exact .inr (.inr (.inl hsign))
  · exact .inr (.inr (.inr (.inl ⟨hasAny_of_subset h.restricted hsign,
      hasAny_eq_false_of_subset h.intended hgrant⟩)))
  · exact .inr (.inr (.inr (.inr (.inl ⟨hasAny_of_subset h.restricted hsign,
      hasAny_eq_false_of_subset h.intended hgrant⟩))))
  · exact .inr (.inr (.inr (.inr (.inr (.inl (hasAny_of_subset h.restricted hsign))))))
  · exact .inr (.inr (.inr (.inr (.inr (.inr (hasAny_of_subset h.restricted hsign))))))

/-- A sign for the sense against the geometry only is one before. -/
theorem backwardOnly_of_loosenedTo (hq : q.backwardOnly t = true) : p.backwardOnly t = true := by
  obtain ⟨honeway, hforward, -⟩ := h.ownKeys
  have hkeys : q.onewayKeys = p.onewayKeys := by
    rw [onewayKeys, onewayKeys, honeway, hl.sideOnewayKeys]
  rw [backwardOnly, Bool.or_eq_true] at hq ⊢
  rw [hkeys, hforward] at hq
  exact hq.imp_right (anyHasAny_of_subset h.restricted)

/-- What opens a closed sense again has nothing to do with the values that the profiles deny and
    grant. -/
theorem isReopened_of_loosenedTo : q.isReopened t = p.isReopened t := by
  obtain ⟨honeway, -, -⟩ := h.ownKeys
  rw [isReopened, isReopened, honeway, hl.bothSidesKey, hl.oppositeLaneKeys, hl.oppositeLaneValues,
    hl.sideOnewayKeys]

/-- Where one sense is closed under a loosened profile, one was closed before. -/
theorem closing_of_loosenedTo {roundabout : Bool}
    (hq : (q.isOneway t = true ∨ roundabout = true) ∧ q.isReopened t = false) :
    (p.isOneway t = true ∨ roundabout = true) ∧ p.isReopened t = false := by
  obtain ⟨honeway, hreopened⟩ := hq
  rw [isReopened_of_loosenedTo h hl] at hreopened
  exact ⟨honeway.imp_left (isOneway_of_loosenedTo h hl), hreopened⟩

/-! ### Senses -/

/-- The sense along the geometry stays open. -/
theorem forward_of_loosenedTo {roundabout : Bool}
    (hp : (p.directions t roundabout).forward = true) :
    (q.directions t roundabout).forward = true := by
  rw [← Bool.not_eq_false, forward_eq_false_iff, runsBackward_eq_backwardOnly] at hp ⊢
  -- What closes it under the loosened profile would have closed it before.
  rintro ⟨hclosing, honly⟩
  exact hp ⟨closing_of_loosenedTo h hl hclosing, backwardOnly_of_loosenedTo h hl honly⟩

end Loosened

/-- From the first profile to the second a way is turned round: a sign for the sense against the
    geometry only is given up, there is no other such sign, and the way is left open in one sense all the
    same. -/
structure Turns (p q : Profile) (t : Tags) (roundabout : Bool) : Prop where
  before : p.backwardOnly t = true
  after : q.backwardOnly t = false
  closing : (q.isOneway t = true ∨ roundabout = true) ∧ q.isReopened t = false

section Turned

variable {p q : Profile} {t : Tags} {roundabout : Bool} (h : p.LoosenedTo q) (hl : p.SameLanes q)
include h hl

/-- A way that is turned round was open against its geometry and is open along it. -/
theorem directions_of_turns (hturns : p.Turns q t roundabout) :
    p.directions t roundabout = ⟨false, true⟩ ∧ q.directions t roundabout = ⟨true, false⟩ := by
  rw [directions_of_closing hturns.closing,
    directions_of_closing (closing_of_loosenedTo h hl hturns.closing),
    runsBackward_eq_backwardOnly, runsBackward_eq_backwardOnly, hturns.before, hturns.after]
  exact ⟨rfl, rfl⟩

/-- **The sense against the geometry is closed** under a loosened profile exactly where the way is
    turned round. -/
theorem backward_closed_iff (hp : (p.directions t roundabout).backward = true) :
    (q.directions t roundabout).backward = false ↔ p.Turns q t roundabout := by
  constructor
  · intro hq
    obtain ⟨hclosing, hafter⟩ := backward_eq_false_iff.1 hq
    rw [runsBackward_eq_backwardOnly] at hafter
    -- One sense was closed before, and it was not this one.
    rw [directions_of_closing (closing_of_loosenedTo h hl hclosing),
      runsBackward_eq_backwardOnly] at hp
    exact ⟨hp, hafter, hclosing⟩
  · intro hturns
    rw [(directions_of_turns h hl hturns).2]

end Turned

/-! ### Private access -/

theorem sameLanes_bicycle (o o' : Options) : (bicycle o).SameLanes (bicycle o') :=
  ⟨rfl, rfl, rfl, rfl⟩

theorem anyHasAny_append (t : Tags) (keys as bs : List String) :
    t.anyHasAny keys (as ++ bs) = (t.anyHasAny keys as || t.anyHasAny keys bs) := by
  rw [Bool.eq_iff_iff, Bool.or_eq_true]
  simp only [Tags.anyHasAny, Tags.hasAny, List.any_eq_true, Option.any_eq_true, List.mem_append,
    decide_eq_true_eq, and_or_left, exists_or]

/-- Where private access is blocked, a value for it denies the sense along the geometry besides the
    signs that do so anyway. -/
theorem backwardOnly_bicycle (blockFords : Bool) (t : Tags) :
    (bicycle ⟨blockFords, true⟩).backwardOnly t =
      ((bicycle ⟨blockFords, false⟩).backwardOnly t ||
        t.anyHasAny ["vehicle:forward", "bicycle:forward"] privateValues) := by
  show (_ || t.anyHasAny _ (publicRestrictions ++ privateValues)) = _
  rw [anyHasAny_append, ← Bool.or_assoc]
  rfl

/-- Unblocking private access turns a way round: its sense along the geometry is denied as private and by
    no sign that stays, and the way is left open in one sense only all the same. -/
structure TurnsOnUnblocking (blockFords : Bool) (t : Tags) (roundabout : Bool) : Prop where
  denied : t.anyHasAny ["vehicle:forward", "bicycle:forward"] privateValues = true
  after : (bicycle ⟨blockFords, false⟩).backwardOnly t = false
  closing : ((bicycle ⟨blockFords, false⟩).isOneway t = true ∨ roundabout = true) ∧
    (bicycle ⟨blockFords, false⟩).isReopened t = false

instance (blockFords : Bool) (t : Tags) (roundabout : Bool) :
    Decidable (TurnsOnUnblocking blockFords t roundabout) :=
  decidable_of_iff (_ ∧ _ ∧ _) ⟨fun h => ⟨h.1, h.2.1, h.2.2⟩, fun h => ⟨h.denied, h.after, h.closing⟩⟩

theorem turnsOnUnblocking_iff {blockFords : Bool} {t : Tags} {roundabout : Bool} :
    TurnsOnUnblocking blockFords t roundabout ↔
      (bicycle ⟨blockFords, true⟩).Turns (bicycle ⟨blockFords, false⟩) t roundabout := by
  constructor
  · rintro ⟨hdenied, hafter, hclosing⟩
    refine ⟨?_, hafter, hclosing⟩
    rw [backwardOnly_bicycle, hdenied, Bool.or_true]
  · rintro ⟨hbefore, hafter, hclosing⟩
    rw [backwardOnly_bicycle, hafter, Bool.false_or] at hbefore
    exact ⟨hbefore, hafter, hclosing⟩

end Profile

/-- **Unblocking private access opens senses**, and closes none but the one against the geometry of a
    way that it turns round: there the sense along the geometry was denied as private and by nothing
    else, and as the way stays a one-way, that sense is now the one that is left. -/
theorem unblocking_private_keeps_directions (blockFords : Bool) (t : Tags) (roundabout : Bool) :
    let p := Profile.bicycle { blockFords := blockFords, blockPrivate := true }
    let q := Profile.bicycle { blockFords := blockFords, blockPrivate := false }
    ((p.directions t roundabout).forward = true → (q.directions t roundabout).forward = true) ∧
    ((p.directions t roundabout).backward = true →
      ((q.directions t roundabout).backward = false ↔
        Profile.TurnsOnUnblocking blockFords t roundabout)) ∧
    (Profile.TurnsOnUnblocking blockFords t roundabout →
      p.directions t roundabout = ⟨false, true⟩ ∧ q.directions t roundabout = ⟨true, false⟩) := by
  intro p q
  have h : p.LoosenedTo q := Profile.bicycle_loosenedTo id nofun
  have hl : p.SameLanes q := Profile.sameLanes_bicycle _ _
  rw [Profile.turnsOnUnblocking_iff]
  exact ⟨Profile.forward_of_loosenedTo h hl, Profile.backward_closed_iff h hl,
    Profile.directions_of_turns h hl⟩

/-- A sense that vehicles were denied as private is opened beside the other one; where there is a
    one-way sign along it, it is opened in place of the other one. -/
theorem unblocking_private_turns_street :
    let p := Profile.bicycle { blockPrivate := true }
    let q := Profile.bicycle { blockPrivate := false }
    let t : Tags := ⟨[("highway", "track"), ("vehicle:forward", "private"), ("oneway:bicycle", "yes")]⟩
    let u : Tags := ⟨[("highway", "track"), ("vehicle:forward", "private")]⟩
    Profile.TurnsOnUnblocking false t false ∧ p.directions t false = ⟨false, true⟩ ∧
      q.directions t false = ⟨true, false⟩ ∧
      ¬ Profile.TurnsOnUnblocking false u false ∧ (p.directions u false).backward = true ∧
      (q.directions u false).backward = true := by
  intro p q t u
  obtain ⟨-, -, hturned⟩ := unblocking_private_keeps_directions false t false
  obtain ⟨-, hbackward, -⟩ := unblocking_private_keeps_directions false u false
  have hturns : Profile.TurnsOnUnblocking false t false := by decide
  have hstays : ¬ Profile.TurnsOnUnblocking false u false := by decide
  have hopen : (p.directions u false).backward = true := by decide
  obtain ⟨hbefore, hafter⟩ := hturned hturns
  refine ⟨hturns, hbefore, hafter, hstays, hopen, ?_⟩
  rw [← Bool.not_eq_false, hbackward hopen]
  exact hstays

/-- **Unblocking private access may close a sense.**  A one-way street along which bicycles are denied
    as private is open to them against its sign only; once they are let in, along its sign only. -/
theorem unblocking_private_closes_backward :
    ¬ ∀ (blockFords : Bool) (t : Tags) (roundabout : Bool),
      (((Profile.bicycle ⟨blockFords, true⟩).directions t roundabout).forward = true →
        ((Profile.bicycle ⟨blockFords, false⟩).directions t roundabout).forward = true) ∧
      (((Profile.bicycle ⟨blockFords, true⟩).directions t roundabout).backward = true →
        ((Profile.bicycle ⟨blockFords, false⟩).directions t roundabout).backward = true) := by
  intro h
  let t : Tags := ⟨[("oneway", "yes"), ("bicycle:forward", "private")]⟩
  have hopen := (h false t false).2 (by decide)
  exact absurd hopen (by decide)

end RoadAccess
