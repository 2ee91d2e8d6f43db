import RoadAccess.Proofs.Assignments
import RoadAccess.Proofs.Hierarchy
import RoadAccess.Proofs.Relevance
import RoadAccess.Proofs.Stripping

namespace RoadAccess

/-!
# Sub-values

A value is the list of its sub-values: joining values by a semicolon joins these lists, and a list of
sub-values is written in one way, from which it is read back.

* `Text.exists_mem_pieces_iff` — the pieces of a text hold all of it but the separators;
* `Tags.IsSubvalue` — a text that can be a sub-value; `Tags.isSubvalue_of_mem` — all sub-values can;
* `Tags.subvalues_append` — joined values;
* `Tags.subvalues_intercalate` — what is written is read back, so `Tags.exists_subvalues_eq_iff` —
  every list of such texts is one of sub-values;
* `Tags.subvalues_eq_nil_iff` — values without sub-values;
* `subvalues_canonical` — the whole, with what stands under the keys of an object.
-/

/-! ### Pieces -/

/-- The pieces of a text hold all its characters but the separators. -/
theorem Text.exists_mem_pieces_iff {sep c : Char} {cs : List Char} :
    (∃ piece ∈ Text.pieces sep cs, c ∈ piece) ↔ c ∈ cs ∧ c ≠ sep := by
  induction cs with
  | nil => simp [Text.pieces]
  | cons d cs ih =>
    by_cases hd : d = sep
    · -- A separator begins a new piece and is in none itself.
      subst hd
      simp only [Text.pieces, if_true, List.mem_cons, exists_eq_or_imp, List.not_mem_nil, false_or, ih]
      exact and_congr_left fun hne => (or_iff_right hne).symm
    · obtain ⟨p, ps, hp⟩ := List.exists_cons_of_ne_nil (Text.pieces_ne_nil sep cs)
      have hkept : c = d ∧ c ≠ sep ↔ c = d := and_iff_left_of_imp fun hc => hc ▸ hd
      rw [hp] at ih
      simp only [Text.pieces, hd, if_false, hp, List.mem_cons, exists_eq_or_imp] at ih ⊢
      rw [or_assoc, ih, or_and_right, hkept]

namespace Tags

/-! ### Texts that can be sub-values -/

/-- A text that can stand between semicolons: it says something, holds no semicolon itself, and has
    no blanks around it. -/
structure IsSubvalue (v : String) : Prop where
  ne_empty : v ≠ ""
  not_mem : ';' ∉ v.toList
  trimmed : Text.Trimmed v.toList

instance (v : String) : Decidable (IsSubvalue v) :=
  decidable_of_iff (v ≠ "" ∧ ';' ∉ v.toList ∧ Text.Trimmed v.toList)
    ⟨fun h => ⟨h.1, h.2.1, h.2.2⟩, fun h => ⟨h.ne_empty, h.not_mem, h.trimmed⟩⟩

theorem isSubvalue_of_mem {value v : String} (h : v ∈ subvalues value) : IsSubvalue v := by
  obtain ⟨hne, part, hpart, hstrip⟩ := mem_subvalues_iff.1 h
  refine ⟨hne, ?_, ?_⟩
  · rw [← hstrip, Text.mem_stripChars_iff (by decide)]
    exact Text.not_mem_of_mem_pieces ';' _ part hpart
  · rw [← hstrip]
    exact Text.trimmed_stripChars part

/-! ### Values and lists of sub-values -/

/-- The sub-values of two values joined by a semicolon. -/
theorem subvalues_append (a b : String) :
    subvalues (a ++ ";" ++ b) = subvalues a ++ subvalues b := by
  have hjoin : (a ++ ";" ++ b).toList = a.toList ++ ';' :: b.toList := by simp
  simp only [subvalues, hjoin, Text.pieces_append, List.map_append, List.filter_append]

/-- A text that can be a sub-value is its only one. -/
theorem subvalues_of_isSubvalue {v : String} (h : IsSubvalue v) : subvalues v = [v] := by
  have hstrip : Text.stripChars v.toList = v.toList := Text.stripChars_eq_self_iff.2 h.trimmed
  have hne : v.toList ≠ [] := fun hnil => h.ne_empty (String.toList_eq_nil_iff.1 hnil)
  rw [subvalues, Text.pieces_eq_singleton h.not_mem]
  simp [hstrip, hne]

/-- **Sub-values are read back** from the value that has semicolons between them. -/
theorem subvalues_intercalate {vs : List String} (h : ∀ v ∈ vs, IsSubvalue v) :
    subvalues (";".intercalate vs) = vs := by
  induction vs with
  | nil => rfl
  | cons v vs ih =>
    rw [List.forall_mem_cons] at h
    cases vs with
    | nil => rw [String.intercalate_singleton, subvalues_of_isSubvalue h.1]
    | cons w ws =>
      rw [String.intercalate_cons_cons, subvalues_append, subvalues_of_isSubvalue h.1, ih h.2]
      rfl

/-- A list is one of sub-values if each text in it can be one. -/
theorem exists_subvalues_eq_iff {vs : List String} :
    (∃ value, subvalues value = vs) ↔ ∀ v ∈ vs, IsSubvalue v := by
  constructor
  · rintro ⟨value, rfl⟩ v hv
    exact isSubvalue_of_mem hv
  · exact fun h => ⟨_, subvalues_intercalate h⟩

/-- A value has no sub-values exactly if there are only semicolons and blanks in it. -/
theorem subvalues_eq_nil_iff {value : String} :
    subvalues value = [] ↔ ∀ c ∈ value.toList, c = ';' ∨ Text.isBlank c = true := by
  rw [subvalues_eq_nil_iff_forall_pieces]
  constructor
  · intro h c hc
    by_cases hsep : c = ';'
    · exact .inl hsep
    · obtain ⟨part, hpart, hmem⟩ := Text.exists_mem_pieces_iff.2 ⟨hc, hsep⟩
      exact .inr (h part hpart c hmem)
  · intro h part hpart c hmem
    obtain ⟨hc, hsep⟩ := Text.exists_mem_pieces_iff.1 ⟨part, hpart, hmem⟩
    exact (h c hc).resolve_left hsep

/-- The sub-values that stand under a key of an object are those of the text of its value; under a key
    that the object does not have there are none. -/
theorem values_ofFields (fields : List (String × Json)) (key : String) :
    (ofFields fields).values key = ((Json.labelAt? fields key).map subvalues).getD [] := by
  rw [values, get?_ofFields]
  cases Json.labelAt? fields key <;> rfl

end Tags

/-! ### The whole -/

/-- **Values are lists of sub-values.**  Joining values by a semicolon joins their sub-values; each of
    these says something, holds no semicolon and has no blanks around it, and every list of such texts
    is one of sub-values; written with semicolons between them, the sub-values of a value are read back;
    and a value has none exactly if there are only semicolons and blanks in it.  Under the keys of an
    object stand the sub-values of the texts of its values, of which the last one counts that a key has,
    and under all other keys stand none. -/
theorem subvalues_canonical :
    (∀ a b, Tags.subvalues (a ++ ";" ++ b) = Tags.subvalues a ++ Tags.subvalues b) ∧
    (∀ vs, (∃ a, Tags.subvalues a = vs) ↔ ∀ v ∈ vs, Tags.IsSubvalue v) ∧
    (∀ a, Tags.subvalues (";".intercalate (Tags.subvalues a)) = Tags.subvalues a) ∧
    (∀ a, Tags.subvalues a = [] ↔ ∀ c ∈ a.toList, c = ';' ∨ Text.isBlank c = true) ∧
    (∀ fields : List (String × Json), ∃ t, Tags.ofJson? (.object fields) = some t ∧
      (∀ before key v after, fields = before ++ (key, v) :: after → key ∉ Keyed.keys after →
        t.values key = Tags.subvalues v.label) ∧
      (∀ key, key ∉ Keyed.keys fields → t.values key = [])) := by
  refine ⟨Tags.subvalues_append, fun vs => Tags.exists_subvalues_eq_iff, ?_, ?_, ?_⟩
  · intro a
    exact Tags.subvalues_intercalate fun v hv => Tags.isSubvalue_of_mem hv
  · intro a
    exact Tags.subvalues_eq_nil_iff
  · intro fields
    refine ⟨_, Tags.ofJson?_object fields, ?_, ?_⟩
    · rintro before key v after rfl hafter
      rw [Tags.values_ofFields, Json.labelAt?, Keyed.lookup_reverse_of_append hafter]
      rfl
    · intro key hkey
      rw [Tags.values_ofFields, Json.labelAt?, Keyed.lookup_reverse_of_notMem hkey]
      rfl

/-- Doubled semicolons, blanks inside and around, and a number under the key. -/
theorem subvalues_canonical_of_crowded :
    let a := "; no  way;; yes\u2003;"
    let fields := [("access", Json.text "no"), ("lanes", .int 2), ("access", .text a)]
    Tags.subvalues (a ++ ";" ++ "no") = ["no  way", "yes", "no"] ∧
      Tags.IsSubvalue "no  way" ∧ (∃ value, Tags.subvalues value = ["no", "no", "a=b"]) ∧
      Tags.subvalues "no  way;yes" = Tags.subvalues a ∧
      Tags.subvalues " ;\u00a0" = [] ∧
      ∃ t, Tags.ofJson? (.object fields) = some t ∧ t.values "access" = Tags.subvalues a ∧
        t.values "lanes" = ["2"] ∧ t.values "bicycle" = [] := by
  intro a fields
  obtain ⟨happend, hlists, hcanonical, hnil, hobject⟩ := subvalues_canonical
  obtain ⟨t, ht, hlast, hnone⟩ := hobject fields
  have ha : Tags.subvalues a = ["no  way", "yes"] := by decide +kernel
  refine ⟨?_, ?_, (hlists _).2 (by decide), ?_, ?_, t, ht, ?_, ?_, ?_⟩
  · rw [happend, ha]
    decide
  · exact (hlists _).1 ⟨a, ha⟩ _ List.mem_cons_self
  · have hwritten := hcanonical a
    rwa [ha] at hwritten ⊢
  · exact (hnil _).2 (by simp [Text.isBlank])
  · exact hlast [("access", .text "no"), ("lanes", .int 2)] "access" (.text a) [] rfl (by decide)
  · have hlanes := hlast [("access", .text "no")] "lanes" (.int 2) [("access", .text a)] rfl (by decide)
    rw [hlanes]
    decide
  · exact hnone "bicycle" (by decide)

end RoadAccess
