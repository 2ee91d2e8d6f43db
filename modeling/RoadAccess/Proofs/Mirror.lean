import Mathlib.Logic.Function.Basic
import RoadAccess.Proofs.Directions
import RoadAccess.Proofs.Relevance

namespace RoadAccess

/-!
# Reversing the geometry of a way

A way that is drawn the other way round has its tags for the two senses exchanged and its one-way signs
turned, and it is open in the exchanged senses.  That holds as long as its signs agree: where one is for
the sense along the geometry only and another for the sense against it, the sense against the geometry
is the one that is left, whichever way the way is drawn.

* `Directions.swap` — the senses exchanged;
* `Profile.mirror` — the tags of a way once its geometry is reversed;
* `Profile.Reversible` — the keys that this concerns are apart from each other and from the rest;
* `Profile.get?_mirror_of_sense`, `Profile.get?_mirror_of_oneway`, `Profile.get?_mirror_of_other` — the
  value of each tag;
* `Profile.isOneway_mirror`, `Profile.isReopened_mirror`, `Profile.runsBackward_mirror` — what becomes of
  the signs;
* `Profile.directions_mirror_iff` — the senses are exchanged unless the signs of a one-way contradict
  each other;
* `mirrored_way_swaps_directions` — the whole for bicycles.
-/

/-- The senses exchanged. -/
def Directions.swap (d : Directions) : Directions := ⟨d.backward, d.forward⟩

/-- Where keys are renamed in pairs, a key has what its partner had. -/
theorem Keyed.lookup_map_of_involutive {α β γ : Type} [DecidableEq α] {partner : α → α}
    (h : Function.Involutive partner) (f : α → β → γ) (entries : List (α × β)) (k : α) :
    (entries.map fun (k, v) => (partner k, f k v)).lookup k =
      (entries.lookup (partner k)).map (f (partner k)) := by
  induction entries with
  | nil => rfl
  | cons e rest ih =>
    obtain ⟨k', v⟩ := e
    rw [List.map_cons, lookup_cons_ite, lookup_cons_ite, ih]
    -- Both searches stop at this entry or neither does, as `partner` undoes itself.
    by_cases hk : k = partner k'
    · rw [if_pos hk, hk, h, if_pos rfl, Option.map_some]
    · have hk' : partner k ≠ k' := fun heq => hk (h.eq_iff.1 heq)
      rw [if_neg hk, if_neg hk']

namespace Profile

/-! ### Reversed tags -/

/-- The keys of the rules for one sense of travel. -/
def senseKeys (p : Profile) : List String :=
  [p.forwardKey, p.backwardKey, "vehicle:forward", "vehicle:backward"]

/-- The key of the same rule for the other sense; any other key is its own. -/
def mirrorKey (p : Profile) (key : String) : String :=
  if key = p.forwardKey then p.backwardKey
  else if key = p.backwardKey then p.forwardKey
  else if key = "vehicle:forward" then "vehicle:backward"
  else if key = "vehicle:backward" then "vehicle:forward"
  else key

/-- The value of a one-way sign that is turned; any other value stays. -/
def turned (value : String) : String :=
  if value ∈ forwardOneways then reverseOneway
  else if value = reverseOneway then "yes"
  else value

/-- The value of a tag once the geometry is reversed: that of a one-way sign is turned. -/
def mirrorValue (p : Profile) (key value : String) : String :=
  if key ∈ p.onewayKeys then turned value else value

/-- The tags of a way once its geometry is reversed. -/
def mirror (p : Profile) (t : Tags) : Tags :=
  ⟨t.entries.map fun (key, value) => (p.mirrorKey key, p.mirrorValue key value)⟩

/-! ### The values of reversed tags -/

/-- The rules for the two senses stand under four different keys, which are neither those of the
    one-way signs nor those of the signs that open a closed sense again. -/
structure Reversible (p : Profile) : Prop where
  nodup : p.senseKeys.Nodup
  oneway : ∀ key ∈ p.onewayKeys, key ∉ p.senseKeys
  lane : ∀ key ∈ p.bothSidesKey :: p.oppositeLaneKeys, key ∉ p.senseKeys ∧ key ∉ p.onewayKeys

variable {p : Profile} {key : String}

theorem mirrorKey_of_notMem (h : key ∉ p.senseKeys) : p.mirrorKey key = key := by
  simp only [senseKeys, List.mem_cons, List.not_mem_nil, or_false, not_or] at h
  obtain ⟨hforward, hbackward, hfore, hback⟩ := h
  rw [mirrorKey, if_neg hforward, if_neg hbackward, if_neg hfore, if_neg hback]

namespace Reversible

/-- The keys of the rules go in pairs. -/
theorem mirrorKey_eq (hp : p.Reversible) :
    p.mirrorKey p.forwardKey = p.backwardKey ∧ p.mirrorKey p.backwardKey = p.forwardKey ∧
      p.mirrorKey "vehicle:forward" = "vehicle:backward" ∧
      p.mirrorKey "vehicle:backward" = "vehicle:forward" := by
  have hnodup := hp.nodup
  simp only [senseKeys, List.nodup_cons, List.mem_cons, List.not_mem_nil, or_false, not_or] at hnodup
  obtain ⟨⟨hbackward, hfore, hback⟩, ⟨hfore', hback'⟩, hvehicle, -⟩ := hnodup
  refine ⟨?_, ?_, ?_, ?_⟩
  · rw [mirrorKey, if_pos rfl]
  · rw [mirrorKey, if_neg (Ne.symm hbackward), if_pos rfl]
  · rw [mirrorKey, if_neg (Ne.symm hfore), if_neg (Ne.symm hfore'), if_pos rfl]
  · rw [mirrorKey, if_neg (Ne.symm hback), if_neg (Ne.symm hback'), if_neg (Ne.symm hvehicle),
      if_pos rfl]

theorem mirrorKey_mem (hp : p.Reversible) (h : key ∈ p.senseKeys) :
    p.mirrorKey key ∈ p.senseKeys := by
  obtain ⟨hforward, hbackward, hfore, hback⟩ := hp.mirrorKey_eq
  have hcases := h
  simp only [senseKeys, List.mem_cons, List.not_mem_nil, or_false] at hcases
  rcases hcases with rfl | rfl | rfl | rfl
  · simp [hforward, senseKeys]
  · simp [hbackward, senseKeys]
  · simp [hfore, senseKeys]
  · simp [hback, senseKeys]

theorem mirrorKey_involutive (hp : p.Reversible) : Function.Involutive p.mirrorKey := by
  intro key
  by_cases h : key ∈ p.senseKeys
  · obtain ⟨hforward, hbackward, hfore, hback⟩ := hp.mirrorKey_eq
    simp only [senseKeys, List.mem_cons, List.not_mem_nil, or_false] at h
    rcases h with rfl | rfl | rfl | rfl
    · rw [hforward, hbackward]
    · rw [hbackward, hforward]
    · rw [hfore, hback]
    · rw [hback, hfore]
  · rw [mirrorKey_of_notMem h, mirrorKey_of_notMem h]

end Reversible

theorem get?_mirror (hp : p.Reversible) (t : Tags) (key : String) :
    (p.mirror t).get? key = (t.get? (p.mirrorKey key)).map (p.mirrorValue (p.mirrorKey key)) :=
  Keyed.lookup_map_of_involutive hp.mirrorKey_involutive p.mirrorValue t.entries key

/-- A rule for one sense has the value that the rule for the other sense had. -/
theorem get?_mirror_of_sense (hp : p.Reversible) (h : key ∈ p.senseKeys) (t : Tags) :
    (p.mirror t).get? key = t.get? (p.mirrorKey key) := by
  have hnot : p.mirrorKey key ∉ p.onewayKeys :=
    fun hmem => hp.oneway _ hmem (hp.mirrorKey_mem h)
  have hvalue : p.mirrorValue (p.mirrorKey key) = id := by
    funext value
    exact if_neg hnot
  rw [get?_mirror hp, hvalue, Option.map_id, id_eq]

/-- A one-way sign is turned. -/
theorem get?_mirror_of_oneway (hp : p.Reversible) (h : key ∈ p.onewayKeys) (t : Tags) :
    (p.mirror t).get? key = (t.get? key).map turned := by
  have hvalue : p.mirrorValue key = turned := by
    funext value
    exact if_pos h
  rw [get?_mirror hp, mirrorKey_of_notMem (hp.oneway key h), hvalue]

/-- Every other tag is as it was. -/
theorem get?_mirror_of_other (hp : p.Reversible) (hsense : key ∉ p.senseKeys)
    (honeway : key ∉ p.onewayKeys) (t : Tags) : (p.mirror t).get? key = t.get? key := by
  have hvalue : p.mirrorValue key = id := by
    funext value
    exact if_neg honeway
  rw [get?_mirror hp, mirrorKey_of_notMem hsense, hvalue, Option.map_id, id_eq]

/-! ### Turned signs -/

theorem turned_mem_forwardOneways_iff (value : String) :
    turned value ∈ forwardOneways ↔ value = reverseOneway := by
  unfold turned
  split
  · next hforward =>
    have hne : value ≠ reverseOneway := by
      rintro rfl
      exact absurd hforward (by decide)
    exact iff_of_false (by decide) hne
  · next hforward =>
    split
    · next hreverse => exact iff_of_true (by decide) hreverse
    · next hreverse => exact iff_of_false hforward hreverse

theorem turned_eq_reverseOneway_iff (value : String) :
    turned value = reverseOneway ↔ value ∈ forwardOneways := by
  unfold turned
  split
  · next hforward => exact iff_of_true rfl hforward
  · next hforward =>
    split
    · exact iff_of_false (by decide) hforward
    · next hreverse => exact iff_of_false hreverse hforward

theorem turned_eq_no_iff (value : String) : turned value = "no" ↔ value = "no" := by
  unfold turned
  split
  · next hforward =>
    refine iff_of_false (by decide) ?_
    rintro rfl
    exact absurd hforward (by decide)
  · split
    · next hreverse => exact iff_of_false (by decide) (by rw [hreverse]; decide)
    · exact Iff.rfl

variable {t : Tags}

/-- A sign that runs along the geometry ran against it before. -/
theorem hasAny_mirror_forwardOneways (hp : p.Reversible) (h : key ∈ p.onewayKeys) :
    (p.mirror t).hasAny key forwardOneways = t.hasValue key reverseOneway := by
  rw [Tags.hasAny, Tags.hasValue, get?_mirror_of_oneway hp h]
  cases t.get? key with
  | none => rfl
  | some value =>
    rw [Option.map_some, Option.any_some]
    simp only [turned_mem_forwardOneways_iff, Option.some.injEq]

/-- A sign that runs against the geometry ran along it before. -/
theorem hasValue_mirror_reverseOneway (hp : p.Reversible) (h : key ∈ p.onewayKeys) :
    (p.mirror t).hasValue key reverseOneway = t.hasAny key forwardOneways := by
  rw [Tags.hasAny, Tags.hasValue, get?_mirror_of_oneway hp h]
  cases t.get? key with
  | none => rfl
  | some value =>
    rw [Option.map_some, Option.any_some]
    simp only [Option.some.injEq, turned_eq_reverseOneway_iff]

/-- A sign that opens both senses does so in either drawing. -/
theorem hasValue_mirror_no (hp : p.Reversible) (h : key ∈ p.onewayKeys) :
    (p.mirror t).hasValue key "no" = t.hasValue key "no" := by
  rw [Tags.hasValue, Tags.hasValue, get?_mirror_of_oneway hp h]
  cases t.get? key with
  | none => rfl
  | some value => simp only [Option.map_some, Option.some.injEq, turned_eq_no_iff]

/-- A rule for one sense says what the rule for the other sense said. -/
theorem hasAny_mirror_of_sense (hp : p.Reversible) (h : key ∈ p.senseKeys) (values : List String) :
    (p.mirror t).hasAny key values = t.hasAny (p.mirrorKey key) values := by
  rw [Tags.hasAny, Tags.hasAny, get?_mirror_of_sense hp h]

/-- The rules for the two senses are exchanged. -/
theorem hasAny_mirror_senses (hp : p.Reversible) (t : Tags) (values : List String) :
    (p.mirror t).hasAny p.forwardKey values = t.hasAny p.backwardKey values ∧
    (p.mirror t).hasAny p.backwardKey values = t.hasAny p.forwardKey values ∧
    (p.mirror t).hasAny "vehicle:forward" values = t.hasAny "vehicle:backward" values ∧
    (p.mirror t).hasAny "vehicle:backward" values = t.hasAny "vehicle:forward" values := by
  obtain ⟨hforward, hbackward, hfore, hback⟩ := hp.mirrorKey_eq
  refine ⟨?_, ?_, ?_, ?_⟩
  · rw [hasAny_mirror_of_sense hp (by simp [senseKeys]), hforward]
  · rw [hasAny_mirror_of_sense hp (by simp [senseKeys]), hbackward]
  · rw [hasAny_mirror_of_sense hp (by simp [senseKeys]), hfore]
  · rw [hasAny_mirror_of_sense hp (by simp [senseKeys]), hback]

/-! ### What becomes of the rules -/

section Rules

variable (hp : p.Reversible) (t : Tags)
include hp

theorem anyHasAny_mirror_forwardOneways {keys : List String} (hkeys : keys ⊆ p.onewayKeys) :
    (p.mirror t).anyHasAny keys forwardOneways = t.anyHasValue keys reverseOneway := by
  exact any_eq_any_of_forall_mem fun key hkey => hasAny_mirror_forwardOneways hp (hkeys hkey)

theorem anyHasValue_mirror_reverseOneway {keys : List String} (hkeys : keys ⊆ p.onewayKeys) :
    (p.mirror t).anyHasValue keys reverseOneway = t.anyHasAny keys forwardOneways := by
  exact any_eq_any_of_forall_mem fun key hkey => hasValue_mirror_reverseOneway hp (hkeys hkey)

/-- The sense that is left is the one against the geometry where a sign was for the other. -/
theorem runsBackward_mirror : p.runsBackward (p.mirror t) = p.forwardOnly t := by
  obtain ⟨hforward, -, hfore, -⟩ := hasAny_mirror_senses hp t p.restricted
  rw [runsBackward_eq_backwardOnly, forwardOnly, backwardOnly,
    anyHasValue_mirror_reverseOneway hp t (List.Subset.refl _)]
  simp only [Tags.anyHasAny, List.any_cons, List.any_nil, hforward, hfore]

/-- A way is a one-way in either drawing. -/
theorem isOneway_mirror : p.isOneway (p.mirror t) = p.isOneway t := by
  obtain ⟨hforward, hbackward, hfore, hback⟩ := hasAny_mirror_senses hp t p.restricted
  obtain ⟨hforward', hbackward', -, -⟩ := hasAny_mirror_senses hp t p.intended
  have hgeneral : "oneway" ∈ p.onewayKeys := by simp [onewayKeys]
  have hown : p.onewayKey ∈ p.onewayKeys := by simp [onewayKeys]
  have hside : p.sideOnewayKeys ⊆ p.onewayKeys := fun key hkey => by simp [onewayKeys, hkey]
  have hsigned : p.signedForward (p.mirror t) = p.signedBackward t := by
    rw [signedForward, signedBackward, hasAny_mirror_forwardOneways hp hown,
      anyHasAny_mirror_forwardOneways hp t hside]
  have hsigned' : p.signedBackward (p.mirror t) = p.signedForward t := by
    rw [signedForward, signedBackward, hasValue_mirror_reverseOneway hp hown,
      anyHasValue_mirror_reverseOneway hp t hside]
  rw [Bool.eq_iff_iff, isOneway_iff, isOneway_iff, hasAny_mirror_forwardOneways hp hgeneral,
    hasValue_mirror_reverseOneway hp hgeneral, hsigned, hsigned', hforward, hbackward, hfore, hback,
    hforward', hbackward']
  -- Each sign has changed places with its counterpart.
  apply iff_of_eq
  ac_rfl

/-- What opens a closed sense again does so in either drawing. -/
theorem isReopened_mirror : p.isReopened (p.mirror t) = p.isReopened t := by
  have hown : p.onewayKey ∈ p.onewayKeys := by simp [onewayKeys]
  have hlane : (p.mirror t).AgreeOn (p.bothSidesKey :: p.oppositeLaneKeys) t := by
    intro key hkey
    exact get?_mirror_of_other hp (hp.lane key hkey).1 (hp.lane key hkey).2 t
  have hside : (p.mirror t).anyHasValue p.sideOnewayKeys "no" =
      t.anyHasValue p.sideOnewayKeys "no" :=
    any_eq_any_of_forall_mem fun key hkey => hasValue_mirror_no hp (by simp [onewayKeys, hkey])
  rw [isReopened, isReopened, hasValue_mirror_no hp hown, hside, hlane.has_eq List.mem_cons_self,
    hlane.hasValue_eq List.mem_cons_self, hlane.anyHasAny_eq (List.subset_cons_self ..)]

/-- **Reversing exchanges the senses** unless the way is a one-way whose signs contradict each other. -/
theorem directions_mirror_iff :
    p.directions (p.mirror t) false = (p.directions t false).swap ↔
      ¬ ((p.isOneway t = true ∧ p.isReopened t = false) ∧
        p.forwardOnly t = true ∧ p.backwardOnly t = true) := by
  by_cases h : p.isOneway t = true ∧ p.isReopened t = false
  · have hclosing : (p.isOneway t = true ∨ false = true) ∧ p.isReopened t = false :=
      ⟨.inl h.1, h.2⟩
    have hclosing' : (p.isOneway (p.mirror t) = true ∨ false = true) ∧
        p.isReopened (p.mirror t) = false := by
      rw [isOneway_mirror hp, isReopened_mirror hp]
      exact hclosing
    rw [directions_of_closing hclosing, directions_of_closing hclosing', runsBackward_mirror hp,
      runsBackward_eq_backwardOnly, and_iff_right h]
    -- A one-way has a sign for one of the senses, so only that both have one is left out.
    rcases only_of_isOneway h.1 with hforward | hbackward
    · cases hbackward : p.backwardOnly t <;> simp [Directions.swap, hforward]
    · cases hforward : p.forwardOnly t <;> simp [Directions.swap, hbackward]
  · have hopen : ¬ ((p.isOneway t = true ∨ false = true) ∧ p.isReopened t = false) := by
      rintro ⟨honeway | hfalse, hreopened⟩
      · exact h ⟨honeway, hreopened⟩
      · cases hfalse
    have hopen' : ¬ ((p.isOneway (p.mirror t) = true ∨ false = true) ∧
        p.isReopened (p.mirror t) = false) := by
      rw [isOneway_mirror hp, isReopened_mirror hp]
      exact hopen
    rw [directions_of_not_closing hopen, directions_of_not_closing hopen']
    exact iff_of_true rfl fun hboth => h hboth.1

/-- A one-way along which bicycles may not ride is left against the geometry in either drawing. -/
example :
    let p := bicycle {}
    let t : Tags := ⟨[("oneway", "yes"), ("bicycle:forward", "no")]⟩
    p.directions t false = ⟨false, true⟩ ∧ p.directions (p.mirror t) false = ⟨false, true⟩ := by
  decide

end Rules

/-! ### Bicycles -/

theorem reversible_bicycle (o : Options) : (bicycle o).Reversible where
  nodup := by
    show ["bicycle:forward", "bicycle:backward", "vehicle:forward", "vehicle:backward"].Nodup
    decide
  oneway := by
    show ∀ key ∈ ["oneway", "oneway:bicycle", "cycleway:left:oneway", "cycleway:right:oneway"],
      key ∉ ["bicycle:forward", "bicycle:backward", "vehicle:forward", "vehicle:backward"]
    decide
  lane := by
    show ∀ key ∈ ["cycleway:both", "cycleway", "cycleway:left", "cycleway:right"],
      key ∉ ["bicycle:forward", "bicycle:backward", "vehicle:forward", "vehicle:backward"] ∧
        key ∉ ["oneway", "oneway:bicycle", "cycleway:left:oneway", "cycleway:right:oneway"]
    decide

end Profile

/-- **A way that is drawn the other way round is open in the exchanged senses**, off roundabouts, as long
    as no two of its signs are for different senses only. -/
theorem mirrored_way_swaps_directions (o : Options) (t : Tags)
    (h : ¬ ((Profile.bicycle o).forwardOnly t = true ∧ (Profile.bicycle o).backwardOnly t = true)) :
    (Profile.bicycle o).directions ((Profile.bicycle o).mirror t) false =
      ((Profile.bicycle o).directions t false).swap := by
  rw [Profile.directions_mirror_iff (Profile.reversible_bicycle o)]
  exact fun hboth => h hboth.2

/-- A street with three signs along its geometry, two of which are set aside for bicycles, and a
    permission for them; drawn the other way round its lane runs against the geometry. -/
theorem mirrored_street_swaps_directions :
    let p := Profile.bicycle {}
    let t : Tags := ⟨[("highway", "tertiary"), ("oneway", "true"), ("cycleway:left:oneway", "1"),
      ("vehicle:backward", "no"), ("bicycle:forward", "yes"), ("bicycle:backward", "permissive")]⟩
    ¬ (p.forwardOnly t = true ∧ p.backwardOnly t = true) ∧
      p.mirror t = ⟨[("highway", "tertiary"), ("oneway", "-1"), ("cycleway:left:oneway", "-1"),
        ("vehicle:forward", "no"), ("bicycle:backward", "yes"), ("bicycle:forward", "permissive")]⟩ ∧
      p.directions t false = ⟨true, false⟩ ∧ p.directions (p.mirror t) false = ⟨false, true⟩ := by
  intro p t
  have hsigns : ¬ (p.forwardOnly t = true ∧ p.backwardOnly t = true) := by decide
  have hdirections : p.directions t false = ⟨true, false⟩ := by decide
  refine ⟨hsigns, by decide, hdirections, ?_⟩
  rw [mirrored_way_swaps_directions {} t hsigns, hdirections]
  rfl

end RoadAccess
