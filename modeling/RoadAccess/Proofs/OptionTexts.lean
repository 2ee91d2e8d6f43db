import RoadAccess.Outcome
import RoadAccess.Profile.Options
import RoadAccess.Proofs.Assignments
import RoadAccess.Proofs.Stripping

namespace RoadAccess

/-!
# Options read from texts

An options text is made of pieces between bars.  Pieces of blanks alone are passed over, and each of
the others assigns a value to an option or is refused by the first of three checks.  A text with no
refused piece gives each option the value that it is assigned last, or leaves it at its default.

* `Options.Assigns`, `Options.Refused` — what a piece comes to; `Options.assigns_or_refused` — every
  piece comes to one of the two; `Options.readPiece_eq_ok_iff`, `Options.readPiece_eq_error_iff` —
  reading finds out which;
* `Options.WordCasing` — a rule for lower case, of which there are several beyond ASCII;
  `Options.lower_mem_words_iff` — the words for true and false are the same under all of them;
* `Options.Settled` — the value that a text gives an option; `Options.get_of_read` — reading finds it;
* `Options.read_append` — a text behind another one changes what this one comes to, by
  `Options.get_assign_of_assigned` and `Options.get_assign_of_not_assigned` only where it assigns values;
* `options_read_in_order` — the whole.
-/

namespace OptionName

theorem ofKey?_eq_some_iff {key : String} {name : OptionName} :
    ofKey? key = some name ↔ key = name.key := by
  constructor
  · intro h
    rw [ofKey?] at h
    split at h
    · next hkey =>
      obtain rfl := Option.some.inj h
      exact hkey
    · split at h
      · next hkey =>
        obtain rfl := Option.some.inj h
        exact hkey
      · cases h
  · rintro rfl
    exact ofKey?_key name

end OptionName

namespace Options

variable {piece : List Char} {name : OptionName} {b : Bool} {fault : OptionFault} {message : String}
  {s : String} {o : Options}

/-! ### Words for true and false -/

/-- The words that stand for a truth value. -/
def words (b : Bool) : List String := if b then trueWords else falseWords

theorem readWord?_eq_some_iff {word : String} :
    readWord? word = some b ↔ Text.lower word ∈ words b := by
  have hapart : ∀ w ∈ trueWords, w ∉ falseWords := by decide
  rw [readWord?]
  by_cases htrue : Text.lower word ∈ trueWords
  · have hfalse := hapart _ htrue
    cases b <;> simp [htrue, hfalse, words]
  · cases b <;> simp [htrue, words]

/-- A rule for lower case: the letters of ASCII have their lower-case forms, and a text with another
    character in it keeps one that stands in no word for true or false. -/
structure WordCasing (casing : String → String) : Prop where
  ascii : ∀ word, (∀ c ∈ word.toList, c.toNat < 128) → casing word = Text.lower word
  other : ∀ word, (∃ c ∈ word.toList, 128 ≤ c.toNat) →
    ∃ c ∈ (casing word).toList, ∀ b, ∀ w ∈ words b, c ∉ w.toList

theorem wordCasing_lower : WordCasing Text.lower where
  ascii _ _ := rfl
  other word h := by
    obtain ⟨c, hc, hlarge⟩ := h
    have hsmall : ∀ b, ∀ w ∈ words b, ∀ d ∈ w.toList, d.toNat < 128 := by
      intro b
      cases b <;> simp [words, trueWords, falseWords]
    -- Only the letters of ASCII are put in lower case, so the character is kept.
    have hkept : c.toLower = c := by
      refine dif_neg ?_
      rintro ⟨-, hle⟩
      have hle' : c.toNat ≤ 90 := hle
      omega
    refine ⟨c, ?_, fun b w hw hmem => ?_⟩
    · rw [Text.lower, String.toList_map, List.mem_map]
      exact ⟨c, hc, hkept⟩
    · exact absurd (hsmall b w hw c hmem) (Nat.not_lt.2 hlarge)

/-- The words are the same under every such rule. -/
theorem lower_mem_words_iff {casing : String → String} (h : WordCasing casing) (word : String) :
    casing word ∈ words b ↔ Text.lower word ∈ words b := by
  by_cases hascii : ∀ c ∈ word.toList, c.toNat < 128
  · rw [h.ascii word hascii]
  · have hother : ∃ c ∈ word.toList, 128 ≤ c.toNat := by
      push Not at hascii
      exact hascii
    -- No rule makes a word of a text with another character in it, `Text.lower` included.
    have hnone : ∀ {casing : String → String}, WordCasing casing → casing word ∉ words b := by
      intro casing h hmem
      obtain ⟨c, hc, hnot⟩ := h.other word hother
      exact hnot b _ hmem hc
    exact iff_of_false (hnone h) (hnone wordCasing_lower)

/-! ### One piece -/

/-- The piece assigns the value to the option: it has an equals sign, before the first of which stands
    the key of the option and behind it a word for the value. -/
def Assigns (piece : List Char) (name : OptionName) (b : Bool) : Prop :=
  ∃ word, Text.Equates piece name.key word ∧ Text.lower word ∈ words b

/-- The piece is refused by the first of three checks that it fails, with a message. -/
inductive Refused (piece : List Char) : OptionFault → String → Prop
  /-- There is no equals sign. -/
  | malformed {item : String} (h : '=' ∉ piece) (hitem : item.toList = Text.stripChars piece) :
      Refused piece (.malformed item)
        ("Opção inválida: " ++ Text.quoted item ++ ". Esperado: chave=valor")
  /-- The key is that of no option. -/
  | unknown {key word : String} (h : Text.Equates piece key word)
      (hkey : ∀ name, key ≠ OptionName.key name) :
      Refused piece (.unknown key)
        ("Opção desconhecida: " ++ Text.quoted key ++ ". Aceitas: block_fords, block_private")
  /-- The word is none for true or false. -/
  | badValue {name : OptionName} {word : String} (h : Text.Equates piece name.key word)
      (hword : ∀ b, Text.lower word ∉ words b) :
      Refused piece (.badValue name.key word)
        ("Valor inválido para " ++ name.key ++ ": " ++ Text.quoted word ++ " (use true/false)")

/-- The message is that of the fault. -/
theorem Refused.message_eq (h : Refused piece fault message) : fault.message = message := by
  cases h <;> rfl

/-- Every piece assigns a value to an option or is refused. -/
theorem assigns_or_refused (piece : List Char) :
    (∃ name b, Assigns piece name b) ∨ ∃ fault message, Refused piece fault message := by
  by_cases hmem : '=' ∈ piece
  · obtain ⟨key, word, h⟩ := Text.exists_equates_iff.2 hmem
    by_cases hkey : ∃ name, key = OptionName.key name
    · obtain ⟨name, rfl⟩ := hkey
      by_cases hword : ∃ b, Text.lower word ∈ words b
      · obtain ⟨b, hb⟩ := hword
        exact .inl ⟨name, b, word, h, hb⟩
      · exact .inr ⟨_, _, .badValue h (not_exists.1 hword)⟩
    · exact .inr ⟨_, _, .unknown h (not_exists.1 hkey)⟩
  · exact .inr ⟨_, _, .malformed hmem String.toList_ofList⟩

/-- What a piece is read as: it is stripped first. -/
def readPiece (piece : List Char) : Except OptionFault (OptionName × Bool) :=
  readItem (String.ofList (Text.stripChars piece))

/-- A piece is read by its key and its word. -/
theorem readPiece_of_equates {key word : String} (h : Text.Equates piece key word) :
    readPiece piece = match OptionName.ofKey? key with
      | none => .error (.unknown key)
      | some name =>
        match readWord? word with
        | none => .error (.badValue key word)
        | some b => .ok (name, b) := by
  -- The piece is stripped before it is cut, which leaves its key and its word as they are.
  obtain ⟨left, right, hpiece, hleft, hkey, hword⟩ := Text.equates_stripChars_iff.2 h
  have hcut : Text.cut '=' (Text.stripChars piece) = some (left, right) :=
    Text.cut_eq_some_iff.2 ⟨hpiece, hleft⟩
  obtain rfl : String.ofList (Text.stripChars left) = key := by rw [hkey, String.ofList_toList]
  obtain rfl : String.ofList (Text.stripChars right) = word := by rw [hword, String.ofList_toList]
  rewrite [readPiece, readItem, String.toList_ofList, hcut]
  rfl

theorem readPiece_of_assigns (h : Assigns piece name b) : readPiece piece = .ok (name, b) := by
  obtain ⟨word, hequates, hword⟩ := h
  simp only [readPiece_of_equates hequates, OptionName.ofKey?_key, readWord?_eq_some_iff.2 hword]

theorem readPiece_of_refused (h : Refused piece fault message) : readPiece piece = .error fault := by
  cases h with
  | @malformed item hmem hitem =>
    have hcut : Text.cut '=' item.toList = none := by
      rw [hitem, Text.cut_eq_none_iff, Text.mem_stripChars_iff (by decide)]
      exact hmem
    have hstripped : String.ofList (Text.stripChars piece) = item := by
      rw [← hitem, String.ofList_toList]
    simp only [readPiece, readItem, hstripped, hcut]
  | @unknown key word hequates hkey =>
    have hnone : OptionName.ofKey? key = none := by
      rw [Option.eq_none_iff_forall_ne_some]
      exact fun name hname => hkey name (OptionName.ofKey?_eq_some_iff.1 hname)
    simp only [readPiece_of_equates hequates, hnone]
  | @badValue name word hequates hword =>
    have hnone : readWord? word = none := by
      rw [Option.eq_none_iff_forall_ne_some]
      exact fun b hb => hword b (readWord?_eq_some_iff.1 hb)
    simp only [readPiece_of_equates hequates, OptionName.ofKey?_key, hnone]

/-- Reading finds what a piece assigns. -/
theorem readPiece_eq_ok_iff : readPiece piece = .ok (name, b) ↔ Assigns piece name b := by
  refine ⟨fun h => ?_, readPiece_of_assigns⟩
  rcases assigns_or_refused piece with ⟨name', b', hassigns⟩ | ⟨fault, message, hrefused⟩
  · rw [readPiece_of_assigns hassigns] at h
    obtain ⟨rfl, rfl⟩ := Prod.mk.inj (Except.ok.inj h)
    exact hassigns
  · rw [readPiece_of_refused hrefused] at h
    cases h

/-- Exactly the pieces can be read that assign a value. -/
theorem exists_readPiece_iff :
    (∃ change, readPiece piece = .ok change) ↔ ∃ name b, Assigns piece name b := by
  simp only [Prod.exists, readPiece_eq_ok_iff]

/-- Or it finds why the piece is refused, and the message says so. -/
theorem readPiece_eq_error_iff :
    readPiece piece = .error fault ∧ fault.message = message ↔ Refused piece fault message := by
  constructor
  · rintro ⟨h, rfl⟩
    rcases assigns_or_refused piece with ⟨name, b, hassigns⟩ | ⟨fault', message, hrefused⟩
    · rw [readPiece_of_assigns hassigns] at h
      cases h
    · rw [readPiece_of_refused hrefused] at h
      obtain rfl := Except.error.inj h
      rwa [hrefused.message_eq]
  · intro h
    exact ⟨readPiece_of_refused h, h.message_eq⟩

/-! ### Texts -/

/-- The pieces of an options text that say something: those between its bars that are not blank. -/
def spoken (s : String) : List (List Char) :=
  (Text.pieces '|' s.toList).filter fun piece => piece.any fun c => !Text.isBlank c

theorem spoken_append (s s' : String) : spoken (s ++ "|" ++ s') = spoken s ++ spoken s' := by
  have hjoin : (s ++ "|" ++ s').toList = s.toList ++ '|' :: s'.toList := by simp
  rw [spoken, hjoin, Text.pieces_append, List.filter_append, spoken, spoken]

/-- The items of a text are its pieces that say something, stripped. -/
theorem assignments_eq (s : String) : assignments s = (spoken s).mapM readPiece := by
  have hitems : items s = (spoken s).map fun piece => String.ofList (Text.stripChars piece) := by
    have hsame : ∀ piece : List Char,
        (!(Text.stripChars piece).isEmpty) = piece.any fun c => !Text.isBlank c := by
      intro piece
      rw [Bool.eq_iff_iff, Bool.not_eq_true', List.isEmpty_eq_false_iff, ne_eq,
        Text.stripChars_eq_nil_iff]
      simp
    rw [items, List.filter_map, List.map_map, spoken]
    exact congrArg _ (List.filter_congr fun piece _ => hsame piece)
  rw [assignments, hitems, List.mapM_map]
  rfl

/-- Exactly the texts can be read in which every piece assigns a value. -/
theorem exists_read_iff :
    (∃ o, read s = .ok o) ↔ ∀ piece ∈ spoken s, ∃ name b, Assigns piece name b := by
  rw [read, Outcome.exists_ok_map_iff, assignments_eq, exists_mapM_eq_ok_iff]
  simp only [exists_readPiece_iff]

/-- The first piece that assigns none is refused. -/
theorem read_eq_error_iff :
    read s = .error fault ∧ fault.message = message ↔
      ∃ before piece after, spoken s = before ++ piece :: after ∧
        (∀ earlier ∈ before, ∃ name b, Assigns earlier name b) ∧ Refused piece fault message := by
  rw [read, Outcome.error_map_iff, assignments_eq, mapM_eq_error_iff]
  simp only [exists_readPiece_iff, ← readPiece_eq_error_iff]
  constructor
  · rintro ⟨⟨before, piece, after, hsplit, hbefore, hpiece⟩, hmessage⟩
    exact ⟨before, piece, after, hsplit, hbefore, hpiece, hmessage⟩
  · rintro ⟨before, piece, after, hsplit, hbefore, hpiece, hmessage⟩
    exact ⟨⟨before, piece, after, hsplit, hbefore, hpiece⟩, hmessage⟩

/-! ### The values of the options -/

/-- An option has the value that it is given last. -/
theorem get_assign (o : Options) (changes : List (OptionName × Bool)) (name : OptionName) :
    (o.assign changes).get name = (changes.reverse.lookup name).getD (o.get name) := by
  induction changes generalizing o with
  | nil => rfl
  | cons change changes ih =>
    obtain ⟨name', b⟩ := change
    show ((o.set name' b).assign changes).get name = _
    rw [ih, get_set, List.reverse_cons, List.lookup_append, Keyed.lookup_cons_ite]
    cases changes.reverse.lookup name with
    | none => by_cases h : name = name' <;> simp [h]
    | some b' => rfl

/-- The text gives the option this value: the last piece assigns it that assigns the option any, or
    there is none and the value is the default. -/
def Settled (s : String) (name : OptionName) (b : Bool) : Prop :=
  LastAssigned Assigns (spoken s) name b ∨
    (∀ piece ∈ spoken s, ∀ b', ¬ Assigns piece name b') ∧ b = ({} : Options).get name

theorem lookup_of_assignments {changes : List (OptionName × Bool)}
    (h : assignments s = .ok changes) (name : OptionName) (b : Bool) :
    changes.reverse.lookup name = some b ↔ LastAssigned Assigns (spoken s) name b := by
  rw [assignments_eq] at h
  exact lookup_reverse_of_mapM (fun _ _ _ => readPiece_eq_ok_iff) h name b

/-- Reading finds the values that the text gives. -/
theorem get_of_read (h : read s = .ok o) : o.get name = b ↔ Settled s name b := by
  obtain ⟨changes, hchanges, rfl⟩ := Outcome.ok_of_map h
  have hlast := lookup_of_assignments hchanges name
  -- Both ways to be settled are told apart by whether the option is found among the changes.
  rw [get_assign, Settled, ← hlast, ← eq_none_iff_of_lastAssigned hlast]
  cases changes.reverse.lookup name with
  | none => simp [eq_comm]
  | some b' => simp

/-! ### Texts behind others -/

/-- A text that can be read, put behind another one, changes what this one comes to. -/
theorem read_append {s' : String} {changes : List (OptionName × Bool)}
    (h : assignments s' = .ok changes) :
    read (s ++ "|" ++ s') = (read s).map fun o => o.assign changes := by
  rw [assignments_eq] at h
  rw [read, read, assignments_eq, assignments_eq, spoken_append, List.mapM_append, h]
  cases (spoken s).mapM readPiece with
  | error fault => rfl
  | ok changes' => exact congrArg Except.ok List.foldl_append

section

variable {changes : List (OptionName × Bool)}

/-- An option to which the text assigns a value has it whatever it had before. -/
theorem get_assign_of_assigned (h : assignments s = .ok changes)
    (hassigned : ∃ piece ∈ spoken s, ∃ b, Assigns piece name b) (o o' : Options) :
    (o.assign changes).get name = (o'.assign changes).get name := by
  obtain ⟨b, hb⟩ := exists_lastAssigned_iff.2 hassigned
  have hfound : changes.reverse.lookup name = some b := (lookup_of_assignments h name b).2 hb
  rw [get_assign, get_assign, hfound]
  rfl

/-- An option to which it assigns none is left as it is. -/
theorem get_assign_of_not_assigned (h : assignments s = .ok changes)
    (hnone : ∀ piece ∈ spoken s, ∀ b, ¬ Assigns piece name b) (o : Options) :
    (o.assign changes).get name = o.get name := by
  have hfound : changes.reverse.lookup name = none :=
    (eq_none_iff_of_lastAssigned (lookup_of_assignments h name)).2 hnone
  rw [get_assign, hfound]
  rfl

end

end Options

/-! ### The whole -/

/-- **Options are read in order.**  A text can be read exactly if every piece of it that is not blank
    assigns a value to an option; each option then has the value that it is assigned last, or its
    default.  Otherwise the first piece is refused that assigns none, by the first check that it fails and
    with its message.  Two texts with a bar between them come to what the first one comes to, but for the
    options to which the second one assigns a value.  Which words stand for true and false does not
    depend on the rule for lower case. -/
theorem options_read_in_order (s : String) :
    ((∃ o, Options.read s = .ok o) ↔
      ∀ piece ∈ Options.spoken s, ∃ name b, Options.Assigns piece name b) ∧
    (∀ o, Options.read s = .ok o → ∀ name b, o.get name = b ↔ Options.Settled s name b) ∧
    (∀ fault message, Options.read s = .error fault ∧ fault.message = message ↔
      ∃ before piece after, Options.spoken s = before ++ piece :: after ∧
        (∀ earlier ∈ before, ∃ name b, Options.Assigns earlier name b) ∧
        Options.Refused piece fault message) ∧
    (∀ s' o o', Options.read s = .ok o → Options.read s' = .ok o' →
      ∃ o'', Options.read (s ++ "|" ++ s') = .ok o'' ∧ ∀ name,
        ((∃ piece ∈ Options.spoken s', ∃ b, Options.Assigns piece name b) →
          o''.get name = o'.get name) ∧
        ((∀ piece ∈ Options.spoken s', ∀ b, ¬ Options.Assigns piece name b) →
          o''.get name = o.get name)) ∧
    (∀ casing, Options.WordCasing casing → ∀ piece name b, Options.Assigns piece name b ↔
      ∃ word, Text.Equates piece name.key word ∧ casing word ∈ Options.words b) := by
  refine ⟨Options.exists_read_iff, ?_, fun _ _ => Options.read_eq_error_iff, ?_, ?_⟩
  · intro o h name b
    exact Options.get_of_read h
  · intro s' o o' h h'
    obtain ⟨changes, hchanges, rfl⟩ := Outcome.ok_of_map h'
    refine ⟨o.assign changes, by rw [Options.read_append hchanges, h]; rfl, fun name => ⟨?_, ?_⟩⟩
    · exact fun hassigned => Options.get_assign_of_assigned hchanges hassigned o {}
    · exact fun hnone => Options.get_assign_of_not_assigned hchanges hnone o
  · intro casing hcasing piece name b
    simp only [Options.Assigns, Options.lower_mem_words_iff hcasing]

/-- An option that is assigned twice, with blanks between bars; the other one overridden by a text put
    behind; and a key that names no option, before a piece without an equals sign. -/
theorem options_read_in_order_of_overridden :
    let s := " block_fords = ON |  |block_private=No|block_fords=0|"
    let s' := "\tblock_private=YES"
    let piece := s'.toList
    Options.read s = .ok { blockFords := false, blockPrivate := false } ∧
      (∀ piece ∈ Options.spoken s, ∃ name b, Options.Assigns piece name b) ∧
      Options.Settled s .blockFords false ∧
      (∃ o, Options.read (s ++ "|" ++ s') = .ok o ∧ o.blockPrivate = true) ∧
      (∃ fault, Options.read "block_fords=1| Ford = 1 |x" = .error fault ∧
        fault.message = "Opção desconhecida: 'Ford'. Aceitas: block_fords, block_private") ∧
      Options.WordCasing Text.lower ∧
      ∃ word, Text.Equates piece "block_private" word ∧ Text.lower word ∈ Options.words true := by
  intro s s' piece
  have h : Options.read s = .ok { blockFords := false, blockPrivate := false } := by decide +kernel
  have h' : Options.read s' = .ok { blockFords := false, blockPrivate := true } := by decide +kernel
  have hassigns : Options.Assigns piece .blockPrivate true :=
    ⟨"YES", ⟨"\tblock_private".toList, "YES".toList, by decide, by decide, by decide, by decide⟩,
      by decide +kernel⟩
  have hford : Options.Refused " Ford = 1 ".toList (.unknown "Ford")
      "Opção desconhecida: 'Ford'. Aceitas: block_fords, block_private" := by
    have hquoted : Text.quoted "Ford" = "'Ford'" := by decide +kernel
    have hequates : Text.Equates " Ford = 1 ".toList "Ford" "1" :=
      ⟨" Ford ".toList, " 1 ".toList, by decide, by decide, by decide, by decide⟩
    have hrefused := Options.Refused.unknown hequates fun name => by cases name <;> decide
    rw [hquoted] at hrefused
    exact hrefused
  have hfirst : Options.Assigns "block_fords=1".toList .blockFords true :=
    ⟨"1", ⟨"block_fords".toList, "1".toList, by decide, by decide, by decide, by decide⟩,
      by decide +kernel⟩
  obtain ⟨hread, hvalues, -, hjoined, hcasing⟩ := options_read_in_order s
  obtain ⟨-, -, hrefused, -, -⟩ := options_read_in_order "block_fords=1| Ford = 1 |x"
  obtain ⟨o, ho, hoverridden⟩ := hjoined s' _ _ h h'
  refine ⟨h, hread.1 ⟨_, h⟩, (hvalues _ h .blockFords false).1 rfl, ⟨o, ho, ?_⟩, ?_,
    Options.wordCasing_lower, ?_⟩
  · exact (hoverridden .blockPrivate).1 ⟨piece, by decide, true, hassigns⟩
  · have hbefore : ∀ earlier ∈ ["block_fords=1".toList], ∃ name b, Options.Assigns earlier name b := by
      rw [List.forall_mem_singleton]
      exact ⟨_, _, hfirst⟩
    exact ⟨_, (hrefused _ _).2 ⟨_, " Ford = 1 ".toList, ["x".toList], by decide, hbefore, hford⟩⟩
  · exact (hcasing Text.lower Options.wordCasing_lower piece .blockPrivate true).1 hassigns

end RoadAccess
