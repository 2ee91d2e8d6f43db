import RoadAccess.Proofs.Texts
import RoadAccess.Restriction

namespace RoadAccess

/-!
# The hierarchy of restriction keys

Of the restriction keys exactly one decides, the first that says anything at all; and it decides by
the set of its sub-values alone.

* `Tags.HasSubvalue`, `Tags.Void` — the sub-values of a key, and a key that has none;
  `Tags.mem_values_iff`, `Tags.values_eq_nil_iff` — the list of sub-values holds just these;
* `Tags.DecidedBy` — the first key that is not void; `Tags.decidedBy_or_void` — there is one unless all
  keys are void;
* `Profile.judge_eq_deny_iff`, `Profile.judge_eq_allow_iff` — within a key a denial wins;
* `Profile.restrictionAmong_of_decidedBy`, `Profile.restrictionAmong_of_void` — what the keys say;
* `Profile.restrictionAmong_append` — keys behind others count only where all of those are void;
* `restriction_by_first_key` — the whole.
-/

/-! ### Keys and their sub-values -/

namespace Tags

/-- A text stands between the semicolons of the value of a key, with or without blanks around it. -/
def HasSubvalue (t : Tags) (key sub : String) : Prop :=
  sub ≠ "" ∧ ∃ value, t.get? key = some value ∧
    ∃ part ∈ Text.pieces ';' value.toList, Text.stripChars part = sub.toList

/-- A key is void: it is not there, or there are only blanks between the semicolons of its value. -/
def Void (t : Tags) (key : String) : Prop :=
  ∀ value, t.get? key = some value →
    ∀ part ∈ Text.pieces ';' value.toList, ∀ c ∈ part, Text.isBlank c = true

theorem mem_subvalues_iff {value sub : String} :
    sub ∈ subvalues value ↔
      sub ≠ "" ∧ ∃ part ∈ Text.pieces ';' value.toList, Text.stripChars part = sub.toList := by
  simp only [subvalues, List.mem_map, List.mem_filter, Bool.not_eq_true', List.isEmpty_eq_false_iff]
  constructor
  · rintro ⟨stripped, ⟨⟨part, hpart, rfl⟩, hne⟩, rfl⟩
    refine ⟨?_, part, hpart, String.toList_ofList.symm⟩
    intro hempty
    apply hne
    rw [← String.toList_ofList (l := Text.stripChars part), hempty]
    rfl
  · rintro ⟨hne, part, hpart, hstrip⟩
    refine ⟨Text.stripChars part, ⟨⟨part, hpart, rfl⟩, ?_⟩, ?_⟩
    · intro hnil
      apply hne
      rw [← String.ofList_toList (s := sub), ← hstrip, hnil]
    · rw [hstrip, String.ofList_toList]

/-- The sub-values of a tag are the texts that stand between its semicolons. -/
theorem mem_values_iff {t : Tags} {key sub : String} :
    sub ∈ t.values key ↔ t.HasSubvalue key sub := by
  rw [values, HasSubvalue]
  cases t.get? key with
  | none => simp
  | some value => simp [mem_subvalues_iff]

/-- A value has no sub-values exactly if there are only blanks between its semicolons. -/
theorem subvalues_eq_nil_iff_forall_pieces {value : String} :
    subvalues value = [] ↔
      ∀ part ∈ Text.pieces ';' value.toList, ∀ c ∈ part, Text.isBlank c = true := by
  simp [subvalues, List.filter_eq_nil_iff, Text.stripChars_eq_nil_iff]

/-- The keys without sub-values are the void ones. -/
theorem values_eq_nil_iff {t : Tags} {key : String} : t.values key = [] ↔ t.Void key := by
  rw [values, Void]
  cases t.get? key with
  | none => simp
  | some value => simp [subvalues_eq_nil_iff_forall_pieces]

instance (t : Tags) (key sub : String) : Decidable (t.HasSubvalue key sub) :=
  decidable_of_iff _ mem_values_iff

instance (t : Tags) (key : String) : Decidable (t.Void key) := decidable_of_iff _ values_eq_nil_iff

/-- A key is void exactly if it has no sub-value. -/
theorem void_iff_forall_not {t : Tags} {key : String} :
    t.Void key ↔ ∀ sub, ¬ t.HasSubvalue key sub := by
  rw [← values_eq_nil_iff, List.eq_nil_iff_forall_not_mem]
  simp only [mem_values_iff]

/-! ### The key that decides -/

variable {t : Tags} {key : String} {keys : List String}

/-- The key decides: it is not void, and every key before it is. -/
def DecidedBy (t : Tags) (keys : List String) (key : String) : Prop :=
  ∃ before after, keys = before ++ key :: after ∧ (∀ k ∈ before, t.Void k) ∧ ¬ t.Void key

/-- A void key in front leaves the decision to the keys behind it. -/
theorem DecidedBy.cons {first : String} (h : t.DecidedBy keys key) (hvoid : t.Void first) :
    t.DecidedBy (first :: keys) key := by
  obtain ⟨before, after, rfl, hbefore, hkey⟩ := h
  refine ⟨first :: before, after, rfl, ?_, hkey⟩
  rw [List.forall_mem_cons]
  exact ⟨hvoid, hbefore⟩

/-- A key in front that is not void decides. -/
theorem decidedBy_cons (h : ¬ t.Void key) (keys : List String) : t.DecidedBy (key :: keys) key :=
  ⟨[], keys, rfl, nofun, h⟩

/-- One of the keys decides unless all of them are void. -/
theorem decidedBy_or_void (t : Tags) (keys : List String) :
    (∃ key, t.DecidedBy keys key) ∨ ∀ key ∈ keys, t.Void key := by
  induction keys with
  | nil => exact .inr nofun
  | cons first keys ih =>
    by_cases hvoid : t.Void first
    · rcases ih with ⟨key, hkey⟩ | hall
      · exact .inl ⟨key, hkey.cons hvoid⟩
      · right
        rw [List.forall_mem_cons]
        exact ⟨hvoid, hall⟩
    · exact .inl ⟨first, decidedBy_cons hvoid keys⟩

end Tags

/-! ### What the keys say -/

namespace Profile

variable {p : Profile} {t : Tags} {key : String} {keys : List String}

/-- Within a key a denial wins. -/
theorem judge_eq_deny_iff {values : List String} :
    p.judge values = .deny ↔ ∃ v ∈ values, v ∈ p.restricted := by
  rw [judge]
  split
  · next hdeny => simpa using hdeny
  · next hdeny =>
    -- Neither of the other two outcomes is a denial.
    have hnone : ¬ ∃ v ∈ values, v ∈ p.restricted := by simpa using hdeny
    split <;> simp [hnone]

/-- A key grants access if it denies nothing and grants something. -/
theorem judge_eq_allow_iff {values : List String} :
    p.judge values = .allow ↔
      (∀ v ∈ values, v ∉ p.restricted) ∧ ∃ v ∈ values, v ∈ p.intended := by
  rw [judge]
  split
  · next hdeny =>
    have hsome : ∃ v ∈ values, v ∈ p.restricted := by simpa using hdeny
    obtain ⟨v, hv, hr⟩ := hsome
    simp only [reduceCtorEq, false_iff, not_and]
    exact fun hall => absurd hr (hall v hv)
  · next hdeny =>
    have hall : ∀ v ∈ values, v ∉ p.restricted := by simpa using hdeny
    rw [and_iff_right hall]
    split
    · next hallow => simpa using hallow
    · next hallow => simpa using hallow

/-- A key says nothing if it neither denies nor grants anything. -/
theorem judge_eq_noMatch_iff {values : List String} :
    p.judge values = .noMatch ↔ ∀ v ∈ values, v ∉ p.restricted ∧ v ∉ p.intended := by
  rw [judge]
  split
  · next hdeny =>
    have hsome : ∃ v ∈ values, v ∈ p.restricted := by simpa using hdeny
    obtain ⟨v, hv, hr⟩ := hsome
    simp only [reduceCtorEq, false_iff]
    exact fun hall => (hall v hv).1 hr
  · next hdeny =>
    have hall : ∀ v ∈ values, v ∉ p.restricted := by simpa using hdeny
    rw [forall₂_and, and_iff_right hall]
    split
    · next hallow => simpa using hallow
    · next hallow => simpa using hallow

/-- Where all keys are void nothing is said. -/
theorem restrictionAmong_of_void (h : ∀ key ∈ keys, t.Void key) :
    p.restrictionAmong t keys = .noMatch := by
  induction keys with
  | nil => rfl
  | cons first keys ih =>
    rw [List.forall_mem_cons] at h
    rw [restrictionAmong_cons_of_nil p t keys (Tags.values_eq_nil_iff.2 h.1)]
    exact ih h.2

/-- Keys behind others count only where all of those are void. -/
theorem restrictionAmong_append (p : Profile) (t : Tags) (keys keys' : List String) :
    ((∃ key ∈ keys, ¬ t.Void key) →
      p.restrictionAmong t (keys ++ keys') = p.restrictionAmong t keys) ∧
    ((∀ key ∈ keys, t.Void key) →
      p.restrictionAmong t (keys ++ keys') = p.restrictionAmong t keys') := by
  induction keys with
  | nil => exact ⟨nofun, fun _ => rfl⟩
  | cons first keys ih =>
    rw [List.cons_append]
    by_cases hvoid : t.Void first
    · have hnil : t.values first = [] := Tags.values_eq_nil_iff.2 hvoid
      rw [restrictionAmong_cons_of_nil p t _ hnil, restrictionAmong_cons_of_nil p t _ hnil]
      simpa [hvoid] using ih
    · have hne : t.values first ≠ [] := fun hnil => hvoid (Tags.values_eq_nil_iff.1 hnil)
      rw [restrictionAmong_cons_of_ne_nil p t _ hne, restrictionAmong_cons_of_ne_nil p t _ hne]
      refine ⟨fun _ => rfl, fun hall => ?_⟩
      exact absurd (hall first List.mem_cons_self) hvoid

/-- The first key that is not void says what all of them say. -/
theorem restrictionAmong_of_decidedBy (h : t.DecidedBy keys key) :
    p.restrictionAmong t keys = p.judge (t.values key) := by
  obtain ⟨before, after, rfl, hbefore, hkey⟩ := h
  have hne : t.values key ≠ [] := fun hnil => hkey (Tags.values_eq_nil_iff.1 hnil)
  rw [(restrictionAmong_append p t before (key :: after)).2 hbefore,
    restrictionAmong_cons_of_ne_nil p t after hne]

/-- Keys say nothing because all of them are void, or what the one of them says that decides. -/
theorem restrictionAmong_eq_iff {r : Restriction} :
    p.restrictionAmong t keys = r ↔
      ((∀ key ∈ keys, t.Void key) ∧ r = .noMatch) ∨
        ∃ key, t.DecidedBy keys key ∧ p.judge (t.values key) = r := by
  constructor
  · rintro rfl
    rcases Tags.decidedBy_or_void t keys with ⟨key, hkey⟩ | hall
    · exact .inr ⟨key, hkey, (restrictionAmong_of_decidedBy hkey).symm⟩
    · exact .inl ⟨hall, restrictionAmong_of_void hall⟩
  · rintro (⟨hall, rfl⟩ | ⟨key, hkey, rfl⟩)
    · exact restrictionAmong_of_void hall
    · exact restrictionAmong_of_decidedBy hkey

/-- The profile that asks these restriction keys instead of its own. -/
def withKeys (p : Profile) (keys : List String) : Profile := { p with restrictionKeys := keys }

/-- Of a profile only its values count for what given keys say. -/
theorem restrictionAmong_withKeys (p : Profile) (asked : List String) (t : Tags)
    (keys : List String) : (p.withKeys asked).restrictionAmong t keys = p.restrictionAmong t keys := by
  induction keys with
  | nil => rfl
  | cons key keys ih =>
    rw [restrictionAmong, restrictionAmong, ih]
    cases t.values key <;> rfl

theorem restriction_withKeys (p : Profile) (keys : List String) (t : Tags) :
    (p.withKeys keys).restriction t = p.restrictionAmong t keys :=
  restrictionAmong_withKeys p keys t keys

/-! ### What makes no difference -/

theorem any_eq_of_mem_iff {values values' members : List String}
    (h : ∀ v, v ∈ values ↔ v ∈ values') :
    values.any (· ∈ members) = values'.any (· ∈ members) := by
  rw [Bool.eq_iff_iff]
  simp [h]

/-- A key says by the set of its sub-values what it says. -/
theorem judge_eq_of_mem_iff {values values' : List String} (h : ∀ v, v ∈ values ↔ v ∈ values') :
    p.judge values = p.judge values' := by
  rw [judge, judge, any_eq_of_mem_iff h, any_eq_of_mem_iff h]

/-- Tags whose keys have the same sub-values are treated alike. -/
theorem restrictionAmong_eq_of_subvalues {u : Tags}
    (h : ∀ key ∈ keys, ∀ v, u.HasSubvalue key v ↔ t.HasSubvalue key v) :
    p.restrictionAmong u keys = p.restrictionAmong t keys := by
  induction keys with
  | nil => rfl
  | cons key keys ih =>
    rw [List.forall_mem_cons] at h
    have hsame : ∀ v, v ∈ u.values key ↔ v ∈ t.values key := by
      intro v
      rw [Tags.mem_values_iff, Tags.mem_values_iff]
      exact h.1 v
    have hnil : u.values key = [] ↔ t.values key = [] := by
      simp only [List.eq_nil_iff_forall_not_mem, hsame]
    by_cases ht : t.values key = []
    · rw [restrictionAmong_cons_of_nil p t keys ht,
        restrictionAmong_cons_of_nil p u keys (hnil.2 ht)]
      exact ih h.2
    · rw [restrictionAmong_cons_of_ne_nil p t keys ht,
        restrictionAmong_cons_of_ne_nil p u keys (fun hu => ht (hnil.1 hu))]
      exact judge_eq_of_mem_iff hsame

/-- What stands under the keys behind one that is not void makes no difference. -/
theorem restrictionAmong_eq_of_behind {u : Tags} {before after : List String}
    (hkey : ¬ t.Void key) (h : ∀ k ∈ before ++ [key], u.get? k = t.get? k) :
    p.restrictionAmong u (before ++ key :: after) =
      p.restrictionAmong t (before ++ key :: after) := by
  have hlast : key ∈ before ++ [key] := List.mem_append_right before List.mem_cons_self
  have hkey' : ¬ u.Void key := by
    rw [Tags.Void, h key hlast]
    exact hkey
  -- Under both sets of tags the keys up to this one already say everything.
  have hsplit : before ++ key :: after = (before ++ [key]) ++ after := by simp
  rw [hsplit, (restrictionAmong_append p u _ after).1 ⟨key, hlast, hkey'⟩,
    (restrictionAmong_append p t _ after).1 ⟨key, hlast, hkey⟩]
  apply restrictionAmong_eq_of_subvalues
  intro k hk v
  rw [Tags.HasSubvalue, Tags.HasSubvalue, h k hk]

end Profile

/-! ### The whole -/

/-- **The first key decides, and in it a denial wins.**  The restriction keys deny access exactly if
    the first of them that is not void has a denying sub-value, grant it exactly if that key has a
    granting one and none that denies, and say nothing otherwise.  So of two lists of keys the second
    counts only where all keys of the first are void; what stands under the keys behind one that is not
    void makes no difference; and neither does the way in which the sub-values of a key are written. -/
theorem restriction_by_first_key (p : Profile) (t : Tags) :
    (p.restriction t = .deny ↔ ∃ key, t.DecidedBy p.restrictionKeys key ∧
      ∃ v, t.HasSubvalue key v ∧ v ∈ p.restricted) ∧
    (p.restriction t = .allow ↔ ∃ key, t.DecidedBy p.restrictionKeys key ∧
      (∀ v, t.HasSubvalue key v → v ∉ p.restricted) ∧ ∃ v, t.HasSubvalue key v ∧ v ∈ p.intended) ∧
    (p.restriction t = .noMatch ↔ (∀ key ∈ p.restrictionKeys, t.Void key) ∨
      ∃ key, t.DecidedBy p.restrictionKeys key ∧
        ∀ v, t.HasSubvalue key v → v ∉ p.restricted ∧ v ∉ p.intended) ∧
    (∀ keys keys' : List String,
      ((∃ key ∈ keys, ¬ t.Void key) →
        (p.withKeys (keys ++ keys')).restriction t = (p.withKeys keys).restriction t) ∧
      ((∀ key ∈ keys, t.Void key) →
        (p.withKeys (keys ++ keys')).restriction t = (p.withKeys keys').restriction t)) ∧
    (∀ (u : Tags) (before : List String) (key : String) (after : List String),
      p.restrictionKeys = before ++ key :: after → ¬ t.Void key →
      (∀ k ∈ before ++ [key], u.get? k = t.get? k) → p.restriction u = p.restriction t) ∧
    (∀ u : Tags,
      (∀ key ∈ p.restrictionKeys, ∀ v, u.HasSubvalue key v ↔ t.HasSubvalue key v) →
      p.restriction u = p.restriction t) := by
  refine ⟨?_, ?_, ?_, ?_, ?_, ?_⟩
  · simp only [Profile.restriction, Profile.restrictionAmong_eq_iff, Profile.judge_eq_deny_iff,
      Tags.mem_values_iff, reduceCtorEq, and_false, false_or]
  · simp only [Profile.restriction, Profile.restrictionAmong_eq_iff, Profile.judge_eq_allow_iff,
      Tags.mem_values_iff, reduceCtorEq, and_false, false_or]
  · simp only [Profile.restriction, Profile.restrictionAmong_eq_iff, Profile.judge_eq_noMatch_iff,
      Tags.mem_values_iff, and_true]
  · intro keys keys'
    simp only [Profile.restriction_withKeys]
    exact Profile.restrictionAmong_append p t keys keys'
  · intro u before key after hkeys hkey hsame
    rw [Profile.restriction, Profile.restriction, hkeys]
    exact Profile.restrictionAmong_eq_of_behind hkey hsame
  · intro u hsame
    exact Profile.restrictionAmong_eq_of_subvalues hsame

/-- Only blanks under the key of bicycles, a denial behind a permission under that of vehicles: the
    vehicles decide, whatever stands under the general key and however the denial is written. -/
theorem restriction_by_first_key_at_vehicles :
    let p := Profile.bicycle {}
    let t : Tags := ⟨[("bicycle", " ;"), ("vehicle", "yes; no"), ("access", "yes")]⟩
    let u : Tags := ⟨[("bicycle", " ;"), ("vehicle", "yes; no"), ("access", "private")]⟩
    let w : Tags := ⟨[("vehicle", "no;;no ; yes"), ("access", "yes")]⟩
    t.Void "bicycle" ∧ ¬ t.Void "vehicle" ∧ p.restriction t = .deny ∧ p.restriction u = .deny ∧
      p.restriction w = .deny ∧ (p.withKeys ["bicycle", "access"]).restriction t = .allow := by
  intro p t u w
  have hbicycle : t.Void "bicycle" := by decide
  have hvehicle : ¬ t.Void "vehicle" := by decide
  have hno : t.HasSubvalue "vehicle" "no" := by decide
  obtain ⟨hdeny, -, -, hkeys, hbehind, hwritten⟩ := restriction_by_first_key p t
  have ht : p.restriction t = .deny := by
    refine hdeny.2 ⟨"vehicle", ⟨["bicycle"], ["access"], rfl, ?_, hvehicle⟩, "no", hno, by decide⟩
    simpa using hbicycle
  refine ⟨hbicycle, hvehicle, ht, ?_, ?_, ?_⟩
  · rw [hbehind u ["bicycle"] "vehicle" ["access"] rfl hvehicle (by decide), ht]
  · rw [hwritten w, ht]
    -- The denial stands twice and in another place, and there are more semicolons.
    have hw : w.values "vehicle" = ["no", "no", "yes"] := by decide
    have ht : t.values "vehicle" = ["yes", "no"] := by decide
    have hsame : ∀ v, v ∈ w.values "vehicle" ↔ v ∈ t.values "vehicle" := by
      intro v
      simp [hw, ht, or_comm]
    intro key hkey v
    rw [← Tags.mem_values_iff, ← Tags.mem_values_iff]
    have hcases : key = "bicycle" ∨ key = "vehicle" ∨ key = "access" := by
      simpa [p, Profile.bicycle] using hkey
    rcases hcases with rfl | rfl | rfl
    · exact Iff.rfl
    · exact hsame v
    · exact Iff.rfl
  · have hsecond := (hkeys ["bicycle"] ["access"]).2 (by simpa using hbicycle)
    exact hsecond.trans (by decide)

end RoadAccess
