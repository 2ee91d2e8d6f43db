import RoadAccess.Proofs.Table
import RoadAccess.Table.Column

namespace RoadAccess

/-!
# Columns of classified ways

Of a classified way the library of tables can change the identifier only, and that only if the
identifiers of all ways have no type in common.

* `ColumnRule.lawful_inferred` — numbers that are taken for real numbers among real numbers are so by a
  lawful rule;
* `ColumnRule.Lawful.map_outcome_assemble`, `ColumnRule.Lawful.map_way_assemble` — what the table of
  classified ways holds; `ColumnRule.Lawful.assemble_of_not_mixed` — identifiers of one type are in it
  as they are.
-/

theorem Json.mixed_mono {vs ws : List Json} (h : Json.Mixed vs) (hsub : ∀ v ∈ vs, v ∈ ws) :
    Json.Mixed ws := by
  rcases h with ⟨hnull, v, hv, hne⟩ | ⟨⟨n, hn⟩, x, hx⟩
  · exact .inl ⟨hsub _ hnull, v, hsub _ hv, hne⟩
  · exact .inr ⟨⟨n, hsub _ hn⟩, x, hsub _ hx⟩

/-- A value alone has a type. -/
theorem Json.not_mixed_singleton (v : Json) : ¬ Json.Mixed [v] := by
  cases v <;> simp [Json.Mixed]

/-- Texts have a type in common. -/
theorem Json.not_mixed_of_texts {vs : List Json} (h : ∀ v ∈ vs, ∃ s, v = .text s) :
    ¬ Json.Mixed vs := by
  rintro (⟨hnull, -⟩ | ⟨⟨n, hn⟩, -⟩)
  · obtain ⟨s, hs⟩ := h _ hnull
    cases hs
  · obtain ⟨s, hs⟩ := h _ hn
    cases hs

namespace ColumnRule

/-! ### Numbers among real numbers -/

theorem isReal_eq_true_iff (v : Json) : isReal v = true ↔ ∃ x, v = .real x := by
  cases v <;> simp [isReal]

theorem isNull_eq_true_iff (v : Json) : isNull v = true ↔ v = .null := by
  cases v <;> simp [isNull]

theorem isInt_eq_true_iff (v : Json) : isInt v = true ↔ ∃ n, v = .int n := by
  cases v <;> simp [isInt]

/-- Numbers that are taken for real numbers and have a type in common are real numbers. -/
theorem all_isReal_of_not_mixed {vs : List Json} (hmixed : ¬ Json.Mixed vs)
    (hnumeric : vs.all isNumeric = true)
    (hreal : (vs.any isReal || vs.any isInt && vs.any isNull) = true) : ∀ v ∈ vs, isReal v = true := by
  simp only [Bool.or_eq_true, Bool.and_eq_true, List.any_eq_true, isReal_eq_true_iff,
    isInt_eq_true_iff, isNull_eq_true_iff] at hreal
  rcases hreal with ⟨v, hv, x, rfl⟩ | ⟨⟨v, hv, n, rfl⟩, w, hw, rfl⟩
  · intro w hw
    have hkind := List.all_eq_true.1 hnumeric w hw
    cases w with
    | real y => rfl
    | null => exact absurd (.inl ⟨hw, _, hv, nofun⟩) hmixed
    | int n => exact absurd (.inr ⟨⟨n, hw⟩, x, hv⟩) hmixed
    | bool b => cases hkind
    | text s => cases hkind
    | array items => cases hkind
    | object fields => cases hkind
  · exact absurd (.inl ⟨hw, _, hv, nofun⟩) hmixed

theorem lawful_inferred : inferred.Lawful where
  length_eq vs := by
    rw [inferred]
    split
    · exact List.length_map _
    · rfl
  kept vs hmixed := by
    rw [inferred]
    split
    · next h =>
      simp only [Bool.and_eq_true] at h
      have hreal := all_isReal_of_not_mixed hmixed h.1.1 h.1.2
      rw [List.map_congr_left (g := id), List.map_id]
      intro v hv
      obtain ⟨x, rfl⟩ := (isReal_eq_true_iff v).1 (hreal v hv)
      rfl
    · rfl

/-! ### The table of classified ways -/

variable {rule : ColumnRule} {records : List WayRecord}

/-- The access to ways and their senses are what they are. -/
theorem Lawful.map_outcome_assemble (h : rule.Lawful) (records : List WayRecord) :
    (rule.assemble records).map (fun r => (r.access, r.directions)) =
      records.map fun r => (r.access, r.directions) := by
  have hlength : (rule (records.map WayRecord.way)).length = records.length := by
    rw [h.length_eq, List.length_map]
  rw [assemble, List.map_zipWith]
  generalize rule (records.map WayRecord.way) = ways at hlength
  induction records generalizing ways with
  | nil => rw [List.zipWith_nil_right]; rfl
  | cons record records ih =>
    cases ways with
    | nil => cases hlength
    | cons way ways => rw [List.zipWith_cons_cons, ih ways (Nat.succ.inj hlength), List.map_cons]

/-- Their identifiers are those of the column. -/
theorem Lawful.map_way_assemble (h : rule.Lawful) (records : List WayRecord) :
    (rule.assemble records).map WayRecord.way = rule (records.map WayRecord.way) := by
  have hlength : (rule (records.map WayRecord.way)).length = records.length := by
    rw [h.length_eq, List.length_map]
  rw [assemble, List.map_zipWith]
  generalize rule (records.map WayRecord.way) = ways at hlength
  induction records generalizing ways with
  | nil => rw [List.zipWith_nil_right, List.length_eq_zero_iff.1 hlength]
  | cons record records ih =>
    cases ways with
    | nil => cases hlength
    | cons way ways => rw [List.zipWith_cons_cons, ih ways (Nat.succ.inj hlength)]

/-- Identifiers with a type in common are kept. -/
theorem Lawful.assemble_of_not_mixed (h : rule.Lawful)
    (hmixed : ¬ Json.Mixed (records.map WayRecord.way)) :
    rule.assemble records = records := by
  rw [assemble, h.kept _ hmixed, List.zipWith_map_left]
  simp

end ColumnRule

end RoadAccess
