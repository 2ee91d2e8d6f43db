import RoadAccess.Proofs.Handling
import RoadAccess.Proofs.Hierarchy
import RoadAccess.Proofs.Loosening

namespace RoadAccess

/-!
# What the tag of the vehicle itself decides

The first restriction key is that of the vehicle itself, so what its sub-values say is what all keys
say.  The rules for motorways, motor roads and fords come before the restriction keys, though, and
they read the value of the tag as a whole: a permission that stands beside another sub-value, or with
a blank around it, is one for the restriction keys and none for them.  A denial meets no such rule:
only platforms and piers come before it.

* `Profile.OwnTagGrants`, `Profile.OwnTagDenies` — the tag of the vehicle grants or denies access by
  its sub-values; `Profile.ownTagGrants_iff`, `Profile.ownTagDenies_iff` — which can be decided;
* `Profile.restriction_of_ownTagGrants`, `Profile.restriction_of_ownTagDenies` — then the restriction
  keys grant or deny it;
* `Profile.otherAccess_ne_skip_of_allow`, `Profile.highwayAccess_eq_skip_iff`,
  `Profile.isBarrier_of_allow` — what a permission of the keys comes to in each of the rules;
* `Profile.highwayAccess_eq_skip_of_deny`, `Profile.otherAccess_of_deny`,
  `Profile.isBarrier_of_deny` — what a denial of the keys comes to;
* `own_permission_decides` — the permission as a whole, with the ways that stay out all the same;
  `own_permission_beside_another` — one of them;
* `own_denial_decides` — the denial as a whole.
-/

namespace Profile

variable {p : Profile} {t : Tags}

/-- The tag of the vehicle itself grants access: one of its sub-values does, and none denies it. -/
structure OwnTagGrants (p : Profile) (t : Tags) : Prop where
  granting : ∃ v, t.HasSubvalue p.vehicle v ∧ v ∈ p.intended
  not_denying : ∀ v, t.HasSubvalue p.vehicle v → v ∉ p.restricted

theorem ownTagGrants_iff : p.OwnTagGrants t ↔
    (∃ v ∈ t.values p.vehicle, v ∈ p.intended) ∧ ∀ v ∈ t.values p.vehicle, v ∉ p.restricted := by
  simp only [Tags.mem_values_iff]
  exact ⟨fun h => ⟨h.granting, h.not_denying⟩, fun h => ⟨h.1, h.2⟩⟩

instance (p : Profile) (t : Tags) : Decidable (p.OwnTagGrants t) :=
  decidable_of_iff _ ownTagGrants_iff.symm

/-- The tag of the vehicle itself denies access: one of its sub-values does, whatever the others
    say. -/
def OwnTagDenies (p : Profile) (t : Tags) : Prop :=
  ∃ v, t.HasSubvalue p.vehicle v ∧ v ∈ p.restricted

theorem ownTagDenies_iff : p.OwnTagDenies t ↔ ∃ v ∈ t.values p.vehicle, v ∈ p.restricted := by
  simp only [OwnTagDenies, Tags.mem_values_iff]

instance (p : Profile) (t : Tags) : Decidable (p.OwnTagDenies t) :=
  decidable_of_iff _ ownTagDenies_iff.symm

/-! ### The restriction keys -/

/-- Where the vehicle has the first restriction key, its tag decides if it has a sub-value. -/
theorem restriction_of_hasSubvalue {keys : List String}
    (hfirst : p.restrictionKeys = p.vehicle :: keys) {v : String}
    (hv : t.HasSubvalue p.vehicle v) : p.restriction t = p.judge (t.values p.vehicle) := by
  have hnonvoid : ¬ t.Void p.vehicle := by
    rw [Tags.void_iff_forall_not]
    exact fun hnone => hnone v hv
  rw [restriction, hfirst, restrictionAmong_of_decidedBy (Tags.decidedBy_cons hnonvoid keys)]

/-- Where the vehicle has the first restriction key, a permission of its tag is one of all keys. -/
theorem restriction_of_ownTagGrants {keys : List String}
    (hfirst : p.restrictionKeys = p.vehicle :: keys) (h : p.OwnTagGrants t) :
    p.restriction t = .allow := by
  obtain ⟨v, hv, hintended⟩ := h.granting
  rw [restriction_of_hasSubvalue hfirst hv, judge_eq_allow_iff]
  simp only [Tags.mem_values_iff]
  exact ⟨h.not_denying, v, hv, hintended⟩

/-- The same for a denial of its tag, beside which no permission counts. -/
theorem restriction_of_ownTagDenies {keys : List String}
    (hfirst : p.restrictionKeys = p.vehicle :: keys) (h : p.OwnTagDenies t) :
    p.restriction t = .deny := by
  obtain ⟨v, hv, hrestricted⟩ := h
  rw [restriction_of_hasSubvalue hfirst hv, judge_eq_deny_iff]
  simp only [Tags.mem_values_iff]
  exact ⟨v, hv, hrestricted⟩

/-- A tag asks to push the vehicle only if there is no other sub-value in it. -/
theorem hasValue_dismount_of_hasSubvalue {key v : String} (hv : t.HasSubvalue key v)
    (hne : v ≠ "dismount") : t.hasValue key "dismount" = false := by
  by_contra hvalue
  rw [Bool.not_eq_false, Tags.hasValue, decide_eq_true_eq] at hvalue
  have hvalues : t.values key = ["dismount"] := by
    rw [Tags.values, hvalue]
    decide
  rw [← Tags.mem_values_iff, hvalues, List.mem_singleton] at hv
  exact hne hv

/-- A tag that grants access does not ask to push the vehicle, unless that is a permission too. -/
theorem hasValue_dismount_of_ownTagGrants (hdismount : "dismount" ∉ p.intended)
    (h : p.OwnTagGrants t) : t.hasValue p.vehicle "dismount" = false := by
  obtain ⟨v, hv, hintended⟩ := h.granting
  refine hasValue_dismount_of_hasSubvalue hv ?_
  rintro rfl
  exact hdismount hintended

/-- A tag that denies access does not ask to push the vehicle, unless that is a denial too. -/
theorem hasValue_dismount_of_ownTagDenies (hdismount : "dismount" ∉ p.restricted)
    (h : p.OwnTagDenies t) : t.hasValue p.vehicle "dismount" = false := by
  obtain ⟨v, hv, hrestricted⟩ := h
  refine hasValue_dismount_of_hasSubvalue hv ?_
  rintro rfl
  exact hdismount hrestricted

/-! ### Ways and nodes -/

/-- A permission lets every way in that has no kind of highway. -/
theorem otherAccess_ne_skip_of_allow (h : p.restriction t = .allow) (isFerry : Tags → Bool) :
    p.otherAccess isFerry t ≠ .skip := by
  rw [otherAccess, h]
  split
  · exact nofun
  · cases isFerry t <;> exact nofun

/-- A permission lets a way of a known kind of highway in, unless the way needs one that the whole
    value of the vehicle's own tag gives. -/
theorem highwayAccess_eq_skip_iff (h : p.restriction t = .allow)
    (hdismount : t.hasValue p.vehicle "dismount" = false) (highway : String) :
    p.highwayAccess t highway = .skip ↔
      highway ∉ p.allowedHighways ∨
        (t.hasAny p.vehicle p.intended = false ∧ p.needsOwnPermission t highway = true) := by
  have hroutable : p.highwayAccess t highway = .skip ↔ ¬ p.highwayAccess t highway = .routable := by
    constructor
    · intro hskip
      rw [hskip]
      exact nofun
    · intro hnot
      by_contra hskip
      exact hnot (highwayAccess_eq_routable hskip)
  rw [hroutable, highwayAccess_eq_routable_iff, hdismount, h]
  by_cases hallowed : highway ∈ p.allowedHighways
  · simp [hallowed]
  · simp [hallowed]

theorem isBarrier_of_allow (h : p.restriction t = .allow) : p.isBarrier t = false := by
  rw [isBarrier, h]

/-- A denial keeps every way out that has a kind of highway, unless the vehicle may be pushed. -/
theorem highwayAccess_eq_skip_of_deny (h : p.restriction t = .deny)
    (hdismount : t.hasValue p.vehicle "dismount" = false) (highway : String) :
    p.highwayAccess t highway = .skip := by
  by_contra hin
  have hroutable := (highwayAccess_eq_routable_iff p t highway).1 (highwayAccess_eq_routable hin)
  obtain ⟨-, hpushed | ⟨-, hnot⟩⟩ := hroutable
  · rw [hdismount] at hpushed
    cases hpushed
  · exact hnot h

/-- A denial keeps every other way out but platforms and piers. -/
theorem otherAccess_of_deny (h : p.restriction t = .deny) (isFerry : Tags → Bool) :
    p.otherAccess isFerry t =
      if t.get? "railway" = some "platform" ∨ t.get? "man_made" = some "pier" then .routable
      else .skip := by
  simp only [otherAccess, h, Tags.hasValue, Bool.or_eq_true, decide_eq_true_eq]

theorem isBarrier_of_deny (h : p.restriction t = .deny) : p.isBarrier t = true := by
  rw [isBarrier, h]

end Profile

/-- A platform or a pier: a way without a kind of highway that is routable whatever the restriction
    keys say. -/
def Tags.IsPlatform (t : Tags) : Prop :=
  t.get? "highway" = none ∧ (t.get? "railway" = some "platform" ∨ t.get? "man_made" = some "pier")

instance (t : Tags) : Decidable t.IsPlatform := inferInstanceAs (Decidable (_ ∧ _))

/-! ### Bicycles -/

/-- **An explicit permission for bicycles decides**, as far as its tag is read by sub-values: no node
    with it is a barrier, and a way with it stays out only if it is of a kind of highway that bicycles do
    not use, or if it is a motorway, a motor road or a blocking ford and the value of the tag is no
    permission as a whole.  A way with a kind of highway that enters the network is routable. -/
theorem own_permission_decides (o : Options) (isFerry : Tags → Bool) (t : Tags)
    (h : (Profile.bicycle o).OwnTagGrants t) :
    ((Profile.bicycle o).access isFerry t = .skip ↔
      ∃ highway, t.get? "highway" = some highway ∧
        (highway ∉ Profile.bicycleHighways ∨
          (t.hasAny "bicycle" (Profile.bicycle o).intended = false ∧
            (Profile.bicycle o).needsOwnPermission t highway = true))) ∧
    (∀ highway, t.get? "highway" = some highway → (Profile.bicycle o).access isFerry t ≠ .skip →
      (Profile.bicycle o).access isFerry t = .routable) ∧
    (Profile.bicycle o).isBarrier t = false := by
  have hallow : (Profile.bicycle o).restriction t = .allow :=
    Profile.restriction_of_ownTagGrants rfl h
  have hintended : "dismount" ∉ (Profile.bicycle o).intended := by
    cases hprivate : o.blockPrivate <;> simp [Profile.bicycle, hprivate] <;> decide
  have hdismount := Profile.hasValue_dismount_of_ownTagGrants hintended h
  refine ⟨?_, ?_, Profile.isBarrier_of_allow hallow⟩
  · rw [Profile.access]
    cases hway : t.get? "highway" with
    | none =>
      have hin := Profile.otherAccess_ne_skip_of_allow hallow isFerry
      simp [hin]
    | some highway =>
      have hskip := Profile.highwayAccess_eq_skip_iff hallow hdismount highway
      simp only [Option.some.injEq, exists_eq_left']
      exact hskip
  · intro highway hway hin
    rw [Profile.access, hway] at hin ⊢
    exact Profile.highwayAccess_eq_routable hin

/-- A motor road through a ford, where bicycles are expressly let in although vehicles are not. -/
theorem own_permission_on_motorroad :
    let p := Profile.bicycle { blockFords := true }
    let t : Tags := ⟨[("highway", "tertiary"), ("motorroad", "yes"), ("ford", "yes"), ("vehicle", "no"),
      ("bicycle", "designated")]⟩
    p.OwnTagGrants t ∧ p.needsOwnPermission t "tertiary" = true ∧
      p.access Tags.isFerry t = .routable ∧ p.isBarrier t = false := by
  intro p t
  have hgrants : p.OwnTagGrants t := by decide
  obtain ⟨hskip, hroutable, hbarrier⟩ :=
    own_permission_decides { blockFords := true } Tags.isFerry t hgrants
  have hin : p.access Tags.isFerry t ≠ .skip := by
    intro hout
    obtain ⟨highway, hway, hkind | ⟨hwhole, -⟩⟩ := hskip.1 hout
    · obtain rfl : "tertiary" = highway := Option.some.inj hway
      exact hkind (by decide)
    · exact absurd hwhole (by decide)
  exact ⟨hgrants, by decide, hroutable "tertiary" rfl hin, hbarrier⟩

/-- **A permission beside another one is passed over.**  Not every way that bicycles use enters the
    network where the tag for bicycles grants it: on a motorway a tag with two permissions is none. -/
theorem own_permission_beside_another :
    ¬ ∀ (o : Options) (isFerry : Tags → Bool) (t : Tags), (Profile.bicycle o).OwnTagGrants t →
      (Profile.bicycle o).access isFerry t = .skip →
      ∃ highway, t.get? "highway" = some highway ∧ highway ∉ Profile.bicycleHighways := by
  intro h
  let t : Tags := ⟨[("highway", "motorway"), ("bicycle", "yes;designated")]⟩
  have hgrants : (Profile.bicycle {}).OwnTagGrants t := by decide
  obtain ⟨highway, hway, hkind⟩ := h {} Tags.isFerry t hgrants (by decide)
  obtain rfl : "motorway" = highway := Option.some.inj hway
  exact hkind (by decide)

/-- **An explicit denial for bicycles decides**, whatever else stands in its tag and in all others: a
    node with it is a barrier, and a way with it stays out, with every ferry predicate, unless it is a
    platform or a pier, which is routable.  Handling a way that stays out reports it and leaves every
    store of flags as it was, whatever its nodes are. -/
theorem own_denial_decides (o : Options) (t : Tags) (h : (Profile.bicycle o).OwnTagDenies t) :
    (∀ isFerry, (Profile.bicycle o).access isFerry t = if t.IsPlatform then .routable else .skip) ∧
    (Profile.bicycle o).isBarrier t = true ∧
    (¬ t.IsPlatform → ∀ c : Classifier, c.profile = .bicycle o →
      ∀ {σ ε : Type} [FlagStore σ ε] (s : σ) (e : ε) (nodes : Json),
        c.handleTags s e t nodes = ⟨s, [.skipped (FlagStore.label σ e) t], .ok .skip⟩ ∧
        ∀ way, Tags.ofJson? way = some t →
          c.handle s e way nodes = ⟨s, [.skipped (FlagStore.label σ e) t], .ok .skip⟩) := by
  have hdeny : (Profile.bicycle o).restriction t = .deny :=
    Profile.restriction_of_ownTagDenies rfl h
  have hrestricted : "dismount" ∉ (Profile.bicycle o).restricted := by
    cases hprivate : o.blockPrivate <;> simp [Profile.bicycle, hprivate] <;> decide
  have hdismount := Profile.hasValue_dismount_of_ownTagDenies hrestricted h
  have haccess : ∀ isFerry, (Profile.bicycle o).access isFerry t =
      if t.IsPlatform then .routable else .skip := by
    intro isFerry
    rw [Profile.access]
    cases hway : t.get? "highway" with
    | none => simp only [Profile.otherAccess_of_deny hdeny, Tags.IsPlatform, hway, true_and]
    | some highway =>
      have hskip := Profile.highwayAccess_eq_skip_of_deny hdeny hdismount highway
      simp only [hskip, Tags.IsPlatform, hway, reduceCtorEq, false_and, if_false]
  refine ⟨haccess, Profile.isBarrier_of_deny hdeny, ?_⟩
  intro hnot c hprofile σ ε _ s e nodes
  have hskip : c.access t = .skip := by rw [Classifier.access, hprofile, haccess, if_neg hnot]
  refine ⟨Classifier.handleTags_of_skip hskip s e nodes, ?_⟩
  intro way hway
  rw [Classifier.handle_of_tags hway, Classifier.handleTags_of_skip hskip]

/-- A ferry on which bicycles are granted and denied at once, where all others are granted, stays out
    and writes nothing even with nodes that cannot be read; a platform of the same tags is routable;
    and a gate of the same tags is a barrier. -/
theorem own_denial_on_ferry :
    let p := Profile.bicycle { blockPrivate := false }
    let c : Classifier := { profile := p }
    let t : Tags := ⟨[("bicycle", "yes; dismount ;; no "), ("vehicle", "yes"), ("access", "yes"),
      ("route", "ferry"), ("foot", "no"), ("barrier_edge", "yes")]⟩
    let u : Tags := ⟨t.entries ++ [("railway", "platform")]⟩
    p.OwnTagDenies t ∧ p.OwnTagDenies u ∧ c.access t = .skip ∧ p.isBarrier t = true ∧
      (c.handle FlagTable.empty (.int 1) t.toJson (.int 5)).state = FlagTable.empty ∧
      c.access u = .routable := by
  intro p c t u
  have ht : p.OwnTagDenies t := by decide
  have hu : p.OwnTagDenies u := by decide
  have hnot : ¬ t.IsPlatform := by decide
  obtain ⟨haccess, hbarrier, hhandle⟩ := own_denial_decides { blockPrivate := false } t ht
  obtain ⟨haccess', -, -⟩ := own_denial_decides { blockPrivate := false } u hu
  have hway : Tags.ofJson? t.toJson = some t := by decide
  refine ⟨ht, hu, ?_, hbarrier, ?_, ?_⟩
  · exact (haccess Tags.isFerry).trans (if_neg hnot)
  · rw [(hhandle hnot c rfl FlagTable.empty (.int 1) (.int 5)).2 t.toJson hway]
  · exact (haccess' Tags.isFerry).trans (if_pos (by decide))

end RoadAccess
