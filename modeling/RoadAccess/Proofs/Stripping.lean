import Mathlib.Data.List.DropRight
import RoadAccess.Proofs.Texts
import RoadAccess.Text.Split

namespace RoadAccess.Text

/-!
# Stripped texts

Stripping takes the blanks at the two ends of a text and nothing else, so it can be said without the
scan that does it: what is left is the part of the text that has blanks alone around it and none at
its own ends.

* `Trimmed` — no blank at either end; `stripChars_eq_self_iff` — stripping such a text, and no other,
  leaves it as it is;
* `exists_eq_stripChars` — a text is the stripped one with blanks around it;
* `stripChars_append_left`, `stripChars_append_right` — blanks put around a text make no difference;
* `Equates` — a text that has a key before its first equals sign and a value after it, each with or
  without blanks around it; `exists_equates_iff` — every text with an equals sign is one;
  `Equates.unique` — in one way; `equates_stripChars_iff` — also where it has blanks around it.
-/

variable {cs : List Char}

/-- Characters with no blank at either end. -/
structure Trimmed (cs : List Char) : Prop where
  head : ∀ c ∈ cs.head?, isBlank c = false
  last : ∀ c ∈ cs.getLast?, isBlank c = false

instance (cs : List Char) : Decidable (Trimmed cs) :=
  decidable_of_iff
    (cs.head?.all (fun c => !isBlank c) = true ∧ cs.getLast?.all (fun c => !isBlank c) = true) <| by
    simp only [Option.all_eq_true, Bool.not_eq_true']
    exact ⟨fun h => ⟨h.1, h.2⟩, fun h => ⟨h.head, h.last⟩⟩

/-! ### Blanks at the ends -/

theorem stripEnd_append {back : List Char} (h : ∀ c ∈ back, isBlank c = true) (cs : List Char) :
    stripEnd (cs ++ back) = stripEnd cs := by
  have hblank : ∀ c ∈ back.reverse, isBlank c = true := fun c hc => h c (List.mem_reverse.1 hc)
  rw [stripEnd, List.reverse_append, List.dropWhile_append_of_pos hblank, stripEnd]

/-- Blanks in front of a text make no difference. -/
theorem stripChars_append_left {front : List Char} (h : ∀ c ∈ front, isBlank c = true)
    (cs : List Char) : stripChars (front ++ cs) = stripChars cs := by
  rw [stripChars, List.dropWhile_append_of_pos h, stripChars]

/-- Blanks behind a text make no difference. -/
theorem stripChars_append_right {back : List Char} (h : ∀ c ∈ back, isBlank c = true)
    (cs : List Char) : stripChars (cs ++ back) = stripChars cs := by
  rw [stripChars, stripChars, List.dropWhile_append]
  split
  · next hempty =>
    -- The text is blank itself, so the blanks in front of it go on to the end.
    rw [List.isEmpty_iff.1 hempty, List.dropWhile_eq_nil_iff.2 h]
  · exact stripEnd_append h _

/-- A text is the stripped one with blanks around it. -/
theorem exists_eq_stripChars (cs : List Char) :
    ∃ front back, (∀ c ∈ front, isBlank c = true) ∧ (∀ c ∈ back, isBlank c = true) ∧
      cs = front ++ stripChars cs ++ back := by
  refine ⟨cs.takeWhile isBlank, (cs.dropWhile isBlank).rtakeWhile isBlank, ?_, ?_, ?_⟩
  · intro c hc
    exact List.mem_takeWhile_imp hc
  · intro c hc
    exact List.mem_rtakeWhile_imp hc
  · have hback : stripChars cs ++ (cs.dropWhile isBlank).rtakeWhile isBlank = cs.dropWhile isBlank :=
      List.rdropWhile_append_rtakeWhile ..
    rw [List.append_assoc, hback, List.takeWhile_append_dropWhile]

/-! ### Trimmed texts -/

/-- What stripping leaves is trimmed. -/
theorem trimmed_stripChars (cs : List Char) : Trimmed (stripChars cs) where
  head c hc := by
    obtain ⟨back, hback⟩ : stripChars cs <+: cs.dropWhile isBlank := List.rdropWhile_prefix ..
    have hhead : (cs.dropWhile isBlank).head? = some c := by
      rw [← hback, List.head?_append, hc, Option.some_or]
    have hnot := List.head?_dropWhile_not isBlank cs
    rwa [hhead] at hnot
  last c hc := by
    obtain ⟨hne, rfl⟩ := List.mem_getLast?_eq_getLast hc
    exact Bool.not_eq_true _ ▸ List.rdropWhile_last_not isBlank _ hne

/-- Stripping leaves a text as it is exactly if there is no blank at either end. -/
theorem stripChars_eq_self_iff : stripChars cs = cs ↔ Trimmed cs := by
  constructor
  · intro h
    rw [← h]
    exact trimmed_stripChars cs
  · intro h
    have hfront : cs.dropWhile isBlank = cs := by
      rw [List.dropWhile_eq_self_iff]
      intro hl
      rw [h.head _ (by rw [List.head?_eq_getElem?, List.getElem?_eq_getElem hl]; rfl)]
      exact Bool.false_ne_true
    have hback : stripEnd cs = cs := by
      refine List.rdropWhile_eq_self_iff.2 fun hne => ?_
      rw [h.last _ (List.getLast?_eq_getLast_of_ne_nil hne)]
      exact Bool.false_ne_true
    rw [stripChars, hfront, hback]

theorem strip_eq_self_iff {s : String} : strip s = s ↔ Trimmed s.toList := by
  rw [← stripChars_eq_self_iff, ← toList_strip, String.toList_inj]

/-- Stripping takes no character that is not blank. -/
theorem mem_stripChars_iff {c : Char} (hc : isBlank c = false) : c ∈ stripChars cs ↔ c ∈ cs := by
  obtain ⟨front, back, hfront, hback, hcs⟩ := exists_eq_stripChars cs
  have hnot : ∀ ds : List Char, (∀ d ∈ ds, isBlank d = true) → c ∉ ds := by
    intro ds hds hmem
    rw [hds c hmem] at hc
    cases hc
  conv_rhs => rw [hcs]
  simp only [List.mem_append, hnot front hfront, hnot back hback, false_or, or_false]

/-! ### Keys and values around an equals sign -/

/-- The characters say that the key has the value: the two stand before and after the first equals
    sign, with or without blanks around them. -/
def Equates (cs : List Char) (key value : String) : Prop :=
  ∃ left right, cs = left ++ '=' :: right ∧ '=' ∉ left ∧
    stripChars left = key.toList ∧ stripChars right = value.toList

/-- Cutting at the equals sign finds the key and the value. -/
theorem equates_of_cut {left right : List Char} (h : cut '=' cs = some (left, right)) :
    Equates cs (String.ofList (stripChars left)) (String.ofList (stripChars right)) := by
  obtain ⟨hcs, hleft⟩ := cut_eq_some_iff.1 h
  exact ⟨left, right, hcs, hleft, String.toList_ofList.symm, String.toList_ofList.symm⟩

/-- A text with an equals sign, and no other, has a key and a value. -/
theorem exists_equates_iff : (∃ key value, Equates cs key value) ↔ '=' ∈ cs := by
  constructor
  · rintro ⟨key, value, left, right, rfl, -⟩
    exact List.mem_append_right left List.mem_cons_self
  · intro h
    cases hcut : cut '=' cs with
    | none => exact absurd h (cut_eq_none_iff.1 hcut)
    | some parts => exact ⟨_, _, equates_of_cut hcut⟩

/-- It has only one. -/
theorem Equates.unique {key value key' value' : String} (h : Equates cs key value)
    (h' : Equates cs key' value') : key = key' ∧ value = value' := by
  obtain ⟨left, right, hcs, hleft, hkey, hvalue⟩ := h
  obtain ⟨left', right', hcs', hleft', hkey', hvalue'⟩ := h'
  have hcut := (cut_eq_some_iff.2 ⟨hcs, hleft⟩).symm.trans (cut_eq_some_iff.2 ⟨hcs', hleft'⟩)
  obtain ⟨rfl, rfl⟩ := Prod.mk.inj (Option.some.inj hcut)
  exact ⟨String.toList_inj.1 (hkey.symm.trans hkey'), String.toList_inj.1 (hvalue.symm.trans hvalue')⟩

/-- Blanks around the whole text are blanks around the key or the value. -/
theorem Equates.of_stripChars {key value : String} (h : Equates (stripChars cs) key value) :
    Equates cs key value := by
  obtain ⟨front, back, hfront, hback, hcs⟩ := exists_eq_stripChars cs
  obtain ⟨left, right, hstrip, hleft, hkey, hvalue⟩ := h
  refine ⟨front ++ left, right ++ back, ?_, ?_, ?_, ?_⟩
  · rw [hcs, hstrip]
    simp only [List.append_assoc, List.cons_append]
  · rw [List.mem_append, not_or]
    refine ⟨fun hmem => ?_, hleft⟩
    exact absurd (hfront _ hmem) (by decide)
  · rw [stripChars_append_left hfront, hkey]
  · rw [stripChars_append_right hback, hvalue]

/-- A text says the same with blanks around it. -/
theorem equates_stripChars_iff {key value : String} :
    Equates (stripChars cs) key value ↔ Equates cs key value := by
  refine ⟨.of_stripChars, fun h => ?_⟩
  -- The stripped text has a key and a value of its own, and they are those of the text.
  have hmem : '=' ∈ stripChars cs :=
    (mem_stripChars_iff (by decide)).2 (exists_equates_iff.1 ⟨key, value, h⟩)
  obtain ⟨key', value', h'⟩ := exists_equates_iff.2 hmem
  obtain ⟨rfl, rfl⟩ := h.unique h'.of_stripChars
  exact h'

end RoadAccess.Text
