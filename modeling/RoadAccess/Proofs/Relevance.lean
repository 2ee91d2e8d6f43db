import RoadAccess.Barrier
import RoadAccess.Edge.Classifier

namespace RoadAccess

/-!
# Which tags matter

Every rule looks at a few keys, and what it says depends on the values under these keys alone: not on
the other tags, not on the order of the tags, and of a key that only has to be there not even on its
value.

* `Tags.AgreeOn` — two sets of tags have the same values under some keys, or none;
* `Profile.accessKeys`, `Profile.directionKeys`, `Profile.wayKeys`, `Profile.nodeKeys` — the keys that
  each rule looks at;
* `Profile.access_eq_of_agreeOn`, `Profile.directions_eq_of_agreeOn`,
  `Profile.isBarrier_eq_of_agreeOn` — tags that agree on them are treated alike;
* `Json.labelAt?` — the text of a field of an object, from which its tags come;
  `Tags.get?_ofFields` — what an object says under a key is what its tags say;
* `Profile.Alike` — two ways with their nodes that no documented tag tells apart;
  `Profile.Indistinct` — the same for tags that have been read.
-/

/-! ### Tags that agree -/

/-- Tests that agree on the keys of a list agree on whether one of them passes. -/
theorem any_eq_any_of_forall_mem {keys : List String} {f g : String → Bool}
    (h : ∀ key ∈ keys, f key = g key) : keys.any f = keys.any g := by
  rw [Bool.eq_iff_iff, List.any_eq_true, List.any_eq_true]
  exact exists_congr fun key => and_congr_right fun hkey => by rw [h key hkey]

namespace Tags

variable {keys : List String} {t u : Tags}

/-- The tags have the same value under each of the keys, or none. -/
def AgreeOn (keys : List String) (t u : Tags) : Prop := ∀ key ∈ keys, t.get? key = u.get? key

theorem agreeOn_refl (keys : List String) (t : Tags) : t.AgreeOn keys t := fun _ _ => rfl

namespace AgreeOn

theorem mono {keys' : List String} (h : t.AgreeOn keys u) (hsub : keys' ⊆ keys) :
    t.AgreeOn keys' u :=
  fun key hkey => h key (hsub hkey)

theorem has_eq (h : t.AgreeOn keys u) {key : String} (hkey : key ∈ keys) : t.has key = u.has key := by
  rw [has, has, h key hkey]

theorem hasValue_eq (h : t.AgreeOn keys u) {key : String} (hkey : key ∈ keys) (value : String) :
    t.hasValue key value = u.hasValue key value := by
  rw [hasValue, hasValue, h key hkey]

theorem hasAny_eq (h : t.AgreeOn keys u) {key : String} (hkey : key ∈ keys) (values : List String) :
    t.hasAny key values = u.hasAny key values := by
  rw [hasAny, hasAny, h key hkey]

theorem values_eq (h : t.AgreeOn keys u) {key : String} (hkey : key ∈ keys) :
    t.values key = u.values key := by
  rw [values, values, h key hkey]

theorem anyHasAny_eq (h : t.AgreeOn keys u) {asked : List String} (hsub : asked ⊆ keys)
    (values : List String) : t.anyHasAny asked values = u.anyHasAny asked values := by
  exact any_eq_any_of_forall_mem fun key hkey => h.hasAny_eq (hsub hkey) values

theorem anyHasValue_eq (h : t.AgreeOn keys u) {asked : List String} (hsub : asked ⊆ keys)
    (value : String) : t.anyHasValue asked value = u.anyHasValue asked value := by
  exact any_eq_any_of_forall_mem fun key hkey => h.hasValue_eq (hsub hkey) value

end AgreeOn

end Tags

namespace Profile

/-! ### The keys that the rules look at -/

/-- The keys that say whether a way enters the network. -/
def accessKeys (p : Profile) : List String :=
  ["highway", p.vehicle] ++ p.restrictionKeys ++
    ["motorroad", "ford", "railway", "man_made", "foot", "route", "ferry", "shuttle_train"]

/-- The keys that say in which senses a routable way is open. -/
def directionKeys (p : Profile) : List String :=
  ["oneway", p.onewayKey, p.forwardKey, p.backwardKey, "vehicle:forward", "vehicle:backward"] ++
    p.sideOnewayKeys ++ p.oppositeLaneKeys ++ [p.bothSidesKey]

/-- The keys of a way whose values count. -/
def wayKeys (p : Profile) : List String := p.accessKeys ++ p.directionKeys ++ ["junction"]

/-- The keys of a node whose values count. -/
def nodeKeys (p : Profile) : List String := p.restrictionKeys ++ ["locked", "barrier", "ford"]

theorem restrictionKeys_subset (p : Profile) : p.restrictionKeys ⊆ p.accessKeys := by
  rw [accessKeys]
  exact List.Subset.trans (List.subset_append_right ..) (List.subset_append_left ..)

theorem accessKeys_subset (p : Profile) : p.accessKeys ⊆ p.wayKeys := by
  rw [wayKeys, List.append_assoc]
  exact List.subset_append_left ..

theorem directionKeys_subset (p : Profile) : p.directionKeys ⊆ p.wayKeys := by
  rw [wayKeys]
  exact List.Subset.trans (List.subset_append_right ..) (List.subset_append_left ..)

theorem junction_mem_wayKeys (p : Profile) : "junction" ∈ p.wayKeys := by simp [wayKeys]

/-! ### Rules on tags that agree -/

variable {p : Profile} {t u : Tags}

theorem restrictionAmong_eq_of_agreeOn {keys : List String} (h : t.AgreeOn keys u) :
    p.restrictionAmong t keys = p.restrictionAmong u keys := by
  induction keys with
  | nil => rfl
  | cons key keys ih =>
    rw [restrictionAmong, restrictionAmong, h.values_eq List.mem_cons_self,
      ih (h.mono (List.subset_cons_self key keys))]

theorem restriction_eq_of_agreeOn (h : t.AgreeOn p.restrictionKeys u) :
    p.restriction t = p.restriction u :=
  restrictionAmong_eq_of_agreeOn h

/-- A node blocks by the documented keys of nodes alone. -/
theorem isBarrier_eq_of_agreeOn (h : t.AgreeOn p.nodeKeys u) : p.isBarrier t = p.isBarrier u := by
  have hrestriction : p.restriction t = p.restriction u :=
    restriction_eq_of_agreeOn (h.mono (List.subset_append_left ..))
  rw [isBarrier, isBarrier, hrestriction, h.hasValue_eq (by simp [nodeKeys]),
    h.hasAny_eq (by simp [nodeKeys]), h.hasValue_eq (by simp [nodeKeys])]

theorem highwayAccess_eq_of_agreeOn (h : t.AgreeOn p.accessKeys u) (highway : String) :
    p.highwayAccess t highway = p.highwayAccess u highway := by
  have hrestriction : p.restriction t = p.restriction u :=
    restriction_eq_of_agreeOn (h.mono p.restrictionKeys_subset)
  have hown : p.needsOwnPermission t highway = p.needsOwnPermission u highway := by
    rw [needsOwnPermission, needsOwnPermission, h.hasValue_eq (by simp [accessKeys]),
      h.has_eq (by simp [accessKeys])]
  rw [highwayAccess, highwayAccess, hrestriction, hown, h.hasValue_eq (by simp [accessKeys]),
    h.hasAny_eq (by simp [accessKeys])]

theorem isFerry_eq_of_agreeOn (h : t.AgreeOn p.accessKeys u) : t.isFerry = u.isFerry := by
  rw [Tags.isFerry, Tags.isFerry, h.hasAny_eq (by simp [accessKeys]),
    h.hasValue_eq (by simp [accessKeys]), h.hasValue_eq (by simp [accessKeys])]

theorem otherAccess_eq_of_agreeOn (h : t.AgreeOn p.accessKeys u) :
    p.otherAccess Tags.isFerry t = p.otherAccess Tags.isFerry u := by
  have hrestriction : p.restriction t = p.restriction u :=
    restriction_eq_of_agreeOn (h.mono p.restrictionKeys_subset)
  rw [otherAccess, otherAccess, hrestriction, isFerry_eq_of_agreeOn h,
    h.hasValue_eq (by simp [accessKeys]), h.hasValue_eq (by simp [accessKeys]),
    h.hasValue_eq (by simp [accessKeys])]

/-- A way enters the network by the documented keys of access alone. -/
theorem access_eq_of_agreeOn (h : t.AgreeOn p.accessKeys u) :
    p.access Tags.isFerry t = p.access Tags.isFerry u := by
  rw [access, access, h "highway" (by simp [accessKeys]), otherAccess_eq_of_agreeOn h]
  cases u.get? "highway" with
  | none => rfl
  | some highway => exact highwayAccess_eq_of_agreeOn h highway

/-- A way is open in the senses that the documented keys of directions give. -/
theorem directions_eq_of_agreeOn (h : t.AgreeOn p.directionKeys u) (roundabout : Bool) :
    p.directions t roundabout = p.directions u roundabout := by
  have hside : p.sideOnewayKeys ⊆ p.directionKeys := by
    intro key hkey
    simp [directionKeys, hkey]
  have hopposite : p.oppositeLaneKeys ⊆ p.directionKeys := by
    intro key hkey
    simp [directionKeys, hkey]
  have hmem : ∀ key ∈ ["oneway", p.onewayKey, p.forwardKey, p.backwardKey, "vehicle:forward",
      "vehicle:backward", p.bothSidesKey], key ∈ p.directionKeys := by
    simp [directionKeys]
  simp only [List.forall_mem_cons, List.not_mem_nil, false_imp_iff, implies_true, and_true] at hmem
  obtain ⟨honeway, hown, hforward, hbackward, hfore, hback, hboth⟩ := hmem
  have hisOneway : p.isOneway t = p.isOneway u := by
    simp only [isOneway, h.hasAny_eq honeway, h.hasValue_eq honeway, h.hasAny_eq hown,
      h.hasAny_eq hforward, h.hasAny_eq hbackward, h.hasAny_eq hfore, h.hasAny_eq hback,
      h.anyHasAny_eq hside]
  have hisReopened : p.isReopened t = p.isReopened u := by
    simp only [isReopened, h.hasValue_eq hown, h.has_eq hboth, h.hasValue_eq hboth,
      h.anyHasAny_eq hopposite, h.anyHasValue_eq hside]
  have hrunsBackward : p.runsBackward t = p.runsBackward u := by
    simp only [runsBackward, h.hasValue_eq honeway, h.hasValue_eq hown, h.anyHasValue_eq hside,
      h.hasAny_eq hfore, h.hasAny_eq hforward]
  rw [directions, directions, hisOneway, hisReopened, hrunsBackward]

theorem isRoundabout_eq_of_agreeOn (h : t.AgreeOn p.wayKeys u) : t.isRoundabout = u.isRoundabout :=
  h.hasAny_eq p.junction_mem_wayKeys _

end Profile

/-! ### Objects -/

/-- The text of the value that an object has under a key; of several values the last one counts. -/
def Json.labelAt? (fields : List (String × Json)) (key : String) : Option String :=
  (fields.reverse.lookup key).map Json.label

theorem Keyed.lookup_map_values {α β γ : Type} [DecidableEq α] (f : β → γ) (entries : List (α × β))
    (k : α) : (entries.map (Prod.map id f)).lookup k = (entries.lookup k).map f := by
  induction entries with
  | nil => rfl
  | cons e rest ih =>
    obtain ⟨k', v⟩ := e
    rw [List.map_cons, Prod.map_apply, id_eq, lookup_cons_ite, lookup_cons_ite, ih]
    split <;> rfl

/-- The tags of an object are the texts of its fields. -/
theorem Tags.get?_ofFields (fields : List (String × Json)) (key : String) :
    (Tags.ofFields fields).get? key = Json.labelAt? fields key := by
  show (Keyed.putAll [] (fields.map (Prod.map id Json.label))).lookup key = _
  rw [Keyed.lookup_putAll, ← List.map_reverse, Keyed.lookup_map_values, List.lookup_nil,
    Option.or_none]
  rfl

/-- Two values that describe the same as far as some keys go: one value, or two objects with the same
    text under each of the keys, or none. -/
inductive Json.AlikeOn (keys : List String) : Json → Json → Prop
  | same (v : Json) : AlikeOn keys v v
  | objects {fields fields' : List (String × Json)}
      (h : ∀ key ∈ keys, labelAt? fields key = labelAt? fields' key) :
      AlikeOn keys (.object fields) (.object fields')

theorem Json.AlikeOn.tags {keys : List String} {v v' : Json} (h : Json.AlikeOn keys v v') :
    (Tags.ofJson? v = none ∧ Tags.ofJson? v' = none) ∨
      ∃ t u, Tags.ofJson? v = some t ∧ Tags.ofJson? v' = some u ∧ t.AgreeOn keys u := by
  cases h with
  | same =>
    cases ht : Tags.ofJson? v with
    | none => exact .inl ⟨rfl, rfl⟩
    | some t => exact .inr ⟨t, t, rfl, rfl, Tags.agreeOn_refl keys t⟩
  | objects h =>
    refine .inr ⟨_, _, Tags.ofJson?_object _, Tags.ofJson?_object _, fun key hkey => ?_⟩
    rw [Tags.get?_ofFields, Tags.get?_ofFields, h key hkey]

namespace Profile

/-- Two values for the nodes of an edge that are not told apart: one value, two that say nothing, or
    two lists whose first nodes describe the same under the documented keys of nodes. -/
inductive NodesAlike (p : Profile) : Json → Json → Prop
  | same (nodes : Json) : NodesAlike p nodes nodes
  | vacant {nodes nodes' : Json} (h : nodes.truthy = false) (h' : nodes'.truthy = false) :
      NodesAlike p nodes nodes'
  | first {node node' : Json} (rest rest' : List Json) (h : Json.AlikeOn p.nodeKeys node node') :
      NodesAlike p (.array (node :: rest)) (.array (node' :: rest'))

/-- Two ways with their nodes that are not told apart: the same ones, or two objects with the same
    text under each documented key of ways, or none, that both stand for a point barrier or both do
    not, and if they do, nodes that are not told apart. -/
inductive Alike (p : Profile) : (way nodes way' nodes' : Json) → Prop
  | same (way nodes : Json) : Alike p way nodes way nodes
  | objects {fields fields' : List (String × Json)} {nodes nodes' : Json}
      (hkeys : ∀ key ∈ p.wayKeys, Json.labelAt? fields key = Json.labelAt? fields' key)
      (hbarrier : (Json.labelAt? fields Classifier.barrierEdgeTag).isSome =
        (Json.labelAt? fields' Classifier.barrierEdgeTag).isSome)
      (hnodes : (Json.labelAt? fields Classifier.barrierEdgeTag).isSome = true →
        p.NodesAlike nodes nodes') :
      Alike p (.object fields) nodes (.object fields') nodes'

/-- The same for tags that have been read. -/
structure Indistinct (p : Profile) (t : Tags) (nodes : Json) (u : Tags) (nodes' : Json) : Prop where
  agree : t.AgreeOn p.wayKeys u
  barrier : t.has Classifier.barrierEdgeTag = u.has Classifier.barrierEdgeTag
  nodes : t.has Classifier.barrierEdgeTag = true → p.NodesAlike nodes nodes'

variable {p : Profile}

theorem indistinct_ofFields {fields fields' : List (String × Json)} {nodes nodes' : Json}
    (hkeys : ∀ key ∈ p.wayKeys, Json.labelAt? fields key = Json.labelAt? fields' key)
    (hbarrier : (Json.labelAt? fields Classifier.barrierEdgeTag).isSome =
      (Json.labelAt? fields' Classifier.barrierEdgeTag).isSome)
    (hnodes : (Json.labelAt? fields Classifier.barrierEdgeTag).isSome = true →
      p.NodesAlike nodes nodes') :
    p.Indistinct (Tags.ofFields fields) nodes (Tags.ofFields fields') nodes' where
  agree key hkey := by rw [Tags.get?_ofFields, Tags.get?_ofFields, hkeys key hkey]
  barrier := by rw [Tags.has, Tags.has, Tags.get?_ofFields, Tags.get?_ofFields, hbarrier]
  nodes h := hnodes (by rwa [Tags.has, Tags.get?_ofFields] at h)

/-- Ways that are not told apart can both be read, or neither of them can. -/
theorem Alike.tags {way nodes way' nodes' : Json} (h : p.Alike way nodes way' nodes') :
    (Tags.ofJson? way = none ∧ Tags.ofJson? way' = none) ∨
      ∃ t u, Tags.ofJson? way = some t ∧ Tags.ofJson? way' = some u ∧
        p.Indistinct t nodes u nodes' := by
  cases h with
  | same =>
    cases ht : Tags.ofJson? way with
    | none => exact .inl ⟨rfl, rfl⟩
    | some t => exact .inr ⟨t, t, rfl, rfl, Tags.agreeOn_refl _ t, rfl, fun _ => .same nodes⟩
  | objects hkeys hbarrier hnodes =>
    exact .inr ⟨_, _, Tags.ofJson?_object _, Tags.ofJson?_object _,
      indistinct_ofFields hkeys hbarrier hnodes⟩

end Profile

end RoadAccess
