namespace RoadAccess.Text

/-!
# Blank characters

The white space that is dropped around keys, values and sub-values.

* `isBlank` — the characters of the Unicode property `White_Space`, together with the four
  information separators `U+001C` to `U+001F`;
* `strip` — a text without the blanks at its two ends;
* `strip_strip` — stripping twice is stripping once.

The zero-width space `U+200B`, the byte order mark `U+FEFF` and `U+180E` are not blank.
-/

/-- A blank character. -/
def isBlank (c : Char) : Bool :=
  let n := c.toNat
  (0x09 ≤ n && n ≤ 0x0D) || (0x1C ≤ n && n ≤ 0x20) || n == 0x85 || n == 0xA0 || n == 0x1680 ||
    (0x2000 ≤ n && n ≤ 0x200A) || n == 0x2028 || n == 0x2029 || n == 0x202F || n == 0x205F ||
    n == 0x3000

/-- The characters without the blanks at their end. -/
def stripEnd (cs : List Char) : List Char := (cs.reverse.dropWhile isBlank).reverse

/-- The characters without the blanks at either end. -/
def stripChars (cs : List Char) : List Char := stripEnd (cs.dropWhile isBlank)

/-- A text without the blanks at either end. -/
def strip (s : String) : String := String.ofList (stripChars s.toList)

@[simp] theorem toList_strip (s : String) : (strip s).toList = stripChars s.toList :=
  String.toList_ofList

/-! ### What stripping leaves -/

private theorem dropWhile_dropWhile (p : Char → Bool) (cs : List Char) :
    (cs.dropWhile p).dropWhile p = cs.dropWhile p := by
  induction cs with
  | nil => rfl
  | cons c cs ih => by_cases h : p c <;> simp [h, ih]

/-- Taking away a tail leaves the head in place: a text that starts with no blank still starts
    with none when its end is stripped. -/
private theorem dropWhile_stripEnd (cs : List Char) (h : cs.dropWhile isBlank = cs) :
    (stripEnd cs).dropWhile isBlank = stripEnd cs := by
  cases cs with
  | nil => rfl
  | cons c cs =>
    have hc : isBlank c = false := by
      cases hb : isBlank c with
      | false => rfl
      | true =>
        -- A blank head would make the stripped text shorter than the text.
        rw [List.dropWhile_cons_of_pos hb] at h
        have hle := (List.dropWhile_sublist (p := isBlank) (l := cs)).length_le
        rw [h] at hle
        exact absurd hle (Nat.not_succ_le_self _)
    have hne : stripEnd (c :: cs) = c :: stripEnd cs := by
      unfold stripEnd
      rw [List.reverse_cons, List.dropWhile_append]
      cases hd : (cs.reverse.dropWhile isBlank) with
      | nil => simp [hc]
      | cons d ds => simp
    rw [hne, List.dropWhile_cons, hc]
    simp

theorem stripEnd_stripEnd (cs : List Char) : stripEnd (stripEnd cs) = stripEnd cs := by
  unfold stripEnd
  rw [List.reverse_reverse, dropWhile_dropWhile]

/-- Stripping twice is stripping once. -/
theorem stripChars_stripChars (cs : List Char) : stripChars (stripChars cs) = stripChars cs := by
  unfold stripChars
  rw [dropWhile_stripEnd _ (dropWhile_dropWhile isBlank cs), stripEnd_stripEnd]

/-- Stripping a text twice is stripping it once. -/
@[simp] theorem strip_strip (s : String) : strip (strip s) = strip s := by
  unfold strip
  rw [String.toList_ofList, stripChars_stripChars]

end RoadAccess.Text
