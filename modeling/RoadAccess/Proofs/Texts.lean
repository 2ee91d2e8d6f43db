import Mathlib.Data.List.TakeWhile
import RoadAccess.Json.Reader
import RoadAccess.Tags.Pairs

namespace RoadAccess

/-!
# Texts that are read

What the readers of texts make of a blank text, and of tags that were written as pairs.

* `Text.stripChars_eq_nil_iff` — stripping leaves nothing of blanks, and of nothing else;
* `Json.parse_eq_none_of_blank` — a blank text is no JSON text, also where the blanks are none
  that JSON knows;
* `Tags.Writable` — a key and a value that can be written as a pair;
* `Tags.readPair_writePair`, `Tags.readPairs_writePair` — what is written so is read back.
-/

/-! ### Blank texts -/

namespace Text

theorem stripEnd_eq_nil_iff (cs : List Char) : stripEnd cs = [] ↔ ∀ c ∈ cs, isBlank c = true := by
  rw [stripEnd, List.reverse_eq_nil_iff, List.dropWhile_eq_nil_iff]
  simp only [List.mem_reverse]

/-- Stripping leaves nothing exactly of a text that is blank. -/
theorem stripChars_eq_nil_iff (cs : List Char) :
    stripChars cs = [] ↔ ∀ c ∈ cs, isBlank c = true := by
  rw [stripChars, stripEnd_eq_nil_iff]
  constructor
  · intro hblank
    have hnil : cs.dropWhile isBlank = [] := by
      -- What is left in front would begin with a character that is not blank.
      by_contra hne
      have hhead := hblank _ (List.head_mem hne)
      rw [List.head_dropWhile_not isBlank hne] at hhead
      cases hhead
    exact List.dropWhile_eq_nil_iff.1 hnil
  · intro hblank c hc
    exact hblank c (List.dropWhile_subset _ hc)

theorem isBlank_digit {c : Char} (hc : c.isDigit = true) : isBlank c = false := by
  simp only [Char.isDigit, Bool.and_eq_true, decide_eq_true_eq, UInt32.le_iff_toNat_le] at hc
  change 48 ≤ c.val.toNat ∧ c.val.toNat ≤ 57 at hc
  simp only [isBlank, Char.toNat, Bool.or_eq_false_iff, Bool.and_eq_false_iff,
    decide_eq_false_iff_not, beq_eq_false_iff_ne]
  omega

end Text

/-! ### JSON texts -/

namespace Json

open Text

/-- A blank is none of the characters that are not. -/
private theorem ne_of_isBlank {c d : Char} (hc : isBlank c = true) (hd : isBlank d = false) :
    c ≠ d := by
  rintro rfl
  rw [hc] at hd
  cases hd

/-- No word begins with a blank, and none with the end of the text. -/
theorem readLiteral_of_blank {cs : List Char} (h : ∀ c ∈ cs, isBlank c = true) :
    readLiteral cs = none := by
  cases cs with
  | nil => rfl
  | cons c cs =>
    have hc := h c List.mem_cons_self
    have hne : ∀ d, isBlank d = false → d ≠ c := fun d hd => (ne_of_isBlank hc hd).symm
    simp [readLiteral, literals, after?, hne _ (show isBlank 'n' = false by decide),
      hne _ (show isBlank 't' = false by decide), hne _ (show isBlank 'f' = false by decide),
      hne _ (show isBlank 'N' = false by decide), hne _ (show isBlank 'I' = false by decide),
      hne _ (show isBlank '-' = false by decide)]

/-- Neither does a number. -/
theorem readNumber_of_blank {cs : List Char} (h : ∀ c ∈ cs, isBlank c = true) :
    readNumber cs = none := by
  cases cs with
  | nil => rfl
  | cons c cs =>
    have hc := h c List.mem_cons_self
    have hdigit : c.isDigit = false := by
      by_contra hd
      rw [Bool.not_eq_false] at hd
      rw [isBlank_digit hd] at hc
      cases hc
    have hzero : c ≠ '0' := ne_of_isBlank hc (by decide)
    have hminus : c ≠ '-' := ne_of_isBlank hc (by decide)
    have hwhole : readWhole (c :: cs) = none := by
      unfold readWhole
      split
      · next heq => exact absurd (List.cons.inj heq).1 hzero
      · simp [readDigits, hdigit]
    unfold readNumber
    split
    · next heq => exact absurd (List.cons.inj heq).1 hminus
    · rw [readMagnitude, hwhole]
      rfl

/-- No value begins with a blank. -/
theorem readValue_of_blank (fuel : Nat) {cs : List Char} (h : ∀ c ∈ cs, isBlank c = true) :
    readValue fuel cs = none := by
  have hne : ∀ d rest, cs = d :: rest → isBlank d = true := by
    rintro d rest rfl
    exact h d List.mem_cons_self
  cases fuel with
  | zero => rfl
  | succ fuel =>
    unfold readValue
    split
    · next rest => exact absurd (hne _ _ rfl) (by decide)
    · next rest => exact absurd (hne _ _ rfl) (by decide)
    · next rest => exact absurd (hne _ _ rfl) (by decide)
    · rw [readLiteral_of_blank h, readNumber_of_blank h]
      rfl

/-- A text of blanks is no JSON text. -/
theorem parse_eq_none_of_blank {s : String} (h : strip s = "") : parse s = none := by
  have hnil : stripChars s.toList = [] := by rw [← toList_strip, h]; rfl
  -- The blanks of JSON are passed over, and what is left is blank all the same.
  have hblank : ∀ c ∈ skipSpace s.toList, isBlank c = true := fun c hc =>
    (stripChars_eq_nil_iff _).1 hnil c (List.dropWhile_subset _ hc)
  simp only [parse, readValue_of_blank _ hblank]
  rfl

end Json

/-! ### Tags written as pairs -/

namespace Tags

/-- A key and a value that can be written as a pair: the key says something and holds no equals
    sign, and neither of the two has blanks around it. -/
structure Writable (key value : String) : Prop where
  key_ne : key ≠ ""
  not_mem : '=' ∉ key.toList
  strip_key : Text.strip key = key
  strip_value : Text.strip value = value

/-- A pair is read back. -/
theorem readPair_writePair {key value : String} (h : Writable key value) :
    readPair (writePair key value) = .ok (key, value) := by
  have hcut : Text.cut '=' (writePair key value).toList = some (key.toList, value.toList) := by
    rw [Text.cut_eq_some_iff]
    exact ⟨by simp [writePair], h.not_mem⟩
  have hkey : String.ofList (Text.stripChars key.toList) = key := h.strip_key
  have hvalue : String.ofList (Text.stripChars value.toList) = value := h.strip_value
  have hne : (Text.stripChars key.toList).isEmpty = false := by
    rw [List.isEmpty_eq_false_iff]
    intro hnil
    rw [hnil] at hkey
    exact h.key_ne hkey.symm
  simp only [readPair, hcut, hne, hkey, hvalue]
  rfl

/-- Pairs are read back in their order. -/
theorem readPairs_writePair {pairs : List (String × String)}
    (h : ∀ pair ∈ pairs, Writable pair.1 pair.2) :
    readPairs (pairs.map fun (k, v) => writePair k v) = .ok (ofPairs pairs) := by
  have hread : (pairs.map fun (k, v) => writePair k v).mapM readPair = .ok pairs := by
    induction pairs with
    | nil => rfl
    | cons pair pairs ih =>
      rw [List.forall_mem_cons] at h
      rw [List.map_cons, List.mapM_cons, readPair_writePair h.1, ih h.2]
      rfl
  rw [readPairs, hread]
  rfl

end Tags

end RoadAccess
