namespace RoadAccess.Text

/-!
# Cutting texts at a separator

* `pieces` — the parts of a text between the separators, one more than there are separators;
* `cut` — the parts before and after the first separator, if there is one;
* `pieces_append` — the pieces of two texts joined by a separator are those of the first
  followed by those of the second;
* `cut_eq_some_iff` — cutting finds exactly the first separator.
-/

/-- The parts of the characters between the separators. -/
def pieces (sep : Char) : List Char → List (List Char)
  | [] => [[]]
  | c :: cs =>
    if c = sep then [] :: pieces sep cs
    else match pieces sep cs with
      | [] => [[c]]
      | p :: ps => (c :: p) :: ps

/-- The characters before the first separator and those after it. -/
def cut (sep : Char) : List Char → Option (List Char × List Char)
  | [] => none
  | c :: cs => if c = sep then some ([], cs) else (cut sep cs).map fun (a, b) => (c :: a, b)

/-! ### Pieces -/

theorem pieces_ne_nil (sep : Char) (cs : List Char) : pieces sep cs ≠ [] := by
  cases cs with
  | nil => simp [pieces]
  | cons c cs =>
    simp only [pieces]
    split
    · simp
    · split <;> simp

/-- The pieces of two texts joined by a separator. -/
theorem pieces_append (sep : Char) (as bs : List Char) :
    pieces sep (as ++ sep :: bs) = pieces sep as ++ pieces sep bs := by
  induction as with
  | nil => simp [pieces]
  | cons c cs ih =>
    by_cases h : c = sep
    · simp [pieces, h, ih]
    · obtain ⟨p, ps, hp⟩ := List.exists_cons_of_ne_nil (pieces_ne_nil sep cs)
      simp [pieces, h, ih, hp]

/-- No piece holds the separator. -/
theorem not_mem_of_mem_pieces (sep : Char) (cs : List Char) :
    ∀ p ∈ pieces sep cs, sep ∉ p := by
  induction cs with
  | nil => simp [pieces]
  | cons c cs ih =>
    by_cases h : c = sep
    · simpa [pieces, h] using ih
    · obtain ⟨q, qs, hq⟩ := List.exists_cons_of_ne_nil (pieces_ne_nil sep cs)
      rw [hq] at ih
      simp only [List.mem_cons, forall_eq_or_imp] at ih
      simp only [pieces, h, hq, if_false, List.mem_cons, forall_eq_or_imp]
      exact ⟨fun hm => hm.elim (fun e => h e.symm) ih.1, ih.2⟩

/-- A text without the separator is its only piece. -/
theorem pieces_eq_singleton {sep : Char} {cs : List Char} (h : sep ∉ cs) : pieces sep cs = [cs] := by
  induction cs with
  | nil => rfl
  | cons c cs ih =>
    simp only [List.mem_cons, not_or] at h
    simp [pieces, ih h.2, Ne.symm h.1]

/-! ### Cuts -/

/-- A cut puts the text together again around its first separator. -/
theorem cut_eq_some_iff {sep : Char} {cs as bs : List Char} :
    cut sep cs = some (as, bs) ↔ cs = as ++ sep :: bs ∧ sep ∉ as := by
  induction cs generalizing as with
  | nil => simp [cut]
  | cons c cs ih =>
    by_cases h : c = sep
    · subst h
      cases as with
      | nil => simp [cut]
      | cons a as =>
        simp only [cut, if_true, Option.some.injEq, Prod.mk.injEq, List.cons_append, List.cons.injEq,
          List.mem_cons, not_or, reduceCtorEq, false_and, false_iff]
        exact fun e => e.2.1 e.1.1
    · simp only [cut, h, if_false, Option.map_eq_some_iff, Prod.exists, Prod.mk.injEq]
      constructor
      · rintro ⟨a, b, hab, rfl, rfl⟩
        obtain ⟨rfl, hn⟩ := ih.1 hab
        exact ⟨rfl, by simp [hn, Ne.symm h]⟩
      · rintro ⟨e, hn⟩
        cases as with
        | nil => exact absurd (List.cons.inj e).1 h
        | cons a as =>
          obtain ⟨rfl, rfl⟩ := List.cons.inj e
          exact ⟨as, bs, ih.2 ⟨rfl, fun m => hn (List.mem_cons_of_mem _ m)⟩, rfl, rfl⟩

/-- There is nothing to cut exactly when the separator is absent. -/
theorem cut_eq_none_iff {sep : Char} {cs : List Char} : cut sep cs = none ↔ sep ∉ cs := by
  induction cs with
  | nil => simp [cut]
  | cons c cs ih =>
    by_cases h : c = sep
    · simp [cut, h]
    · simp [cut, h, ih, Ne.symm h]

end RoadAccess.Text
