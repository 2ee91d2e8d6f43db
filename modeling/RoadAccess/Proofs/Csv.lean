import RoadAccess.Csv.Library
import RoadAccess.Proofs.Columns

namespace RoadAccess.Csv

/-!
# Comma-separated texts have one reading

A text that holds lines of fields holds no other ones, as long as commas, quotes and line feeds stand
between quotes.  The reader and the writer of tables keep to this: what is written holds the lines of the
table, and of what is read a regular text comes out as its lines.

* `FieldText.unique`, `LineText.unique`, `Holds.unique` — a field, a line and all lines of a text are
  found in one way only;
* `Holds.plain` — without carriage returns in its fields a text is the same to all readers;
* `holds_write` — the writer;
* `run_field`, `run_line`, `run_lines` — the reader finds a field, a line and several lines;
  `scan_of_holds`, `read_of_regular` — and so all lines, and the table;
* `fields_of_read` — the rows of a table that was read have a text for each column;
* `library_lawful` — what is known of libraries is true of this one.
-/

/-! ### One reading -/

/-- Two lists of characters with a property, each before one without it. -/
theorem append_cons_inj {p : Char → Prop} {cs cs' rest rest' : List Char} {c c' : Char}
    (hcs : ∀ d ∈ cs, p d) (hcs' : ∀ d ∈ cs', p d) (hc : ¬ p c) (hc' : ¬ p c')
    (h : cs ++ c :: rest = cs' ++ c' :: rest') : cs = cs' ∧ c = c' ∧ rest = rest' := by
  induction cs generalizing cs' with
  | nil =>
    cases cs' with
    | nil => exact ⟨rfl, List.cons.inj h⟩
    | cons d cs' =>
      obtain ⟨rfl, -⟩ := List.cons.inj h
      exact absurd (hcs' _ List.mem_cons_self) hc
  | cons d cs ih =>
    cases cs' with
    | nil =>
      obtain ⟨rfl, -⟩ := List.cons.inj h
      exact absurd (hcs _ List.mem_cons_self) hc'
    | cons d' cs' =>
      rw [List.forall_mem_cons] at hcs hcs'
      obtain ⟨rfl, htail⟩ := List.cons.inj h
      obtain ⟨rfl, hrest⟩ := ih hcs.2 hcs'.2 htail
      exact ⟨rfl, hrest⟩

/-- What a character is between quotes is no beginning of what another one is. -/
theorem escapeChar_append_inj {c c' : Char} {rest rest' : List Char}
    (h : escapeChar c ++ rest = escapeChar c' ++ rest') : c = c' ∧ rest = rest' := by
  by_cases hc : c = '"'
  · by_cases hc' : c' = '"'
    · rw [hc, hc'] at h
      exact ⟨hc.trans hc'.symm, (List.cons.inj (List.cons.inj h).2).2⟩
    · rw [escapeChar, escapeChar, if_pos hc, if_neg hc'] at h
      exact absurd (List.cons.inj h).1.symm hc'
  · by_cases hc' : c' = '"'
    · rw [escapeChar, escapeChar, if_neg hc, if_pos hc'] at h
      exact absurd (List.cons.inj h).1 hc
    · rw [escapeChar, escapeChar, if_neg hc, if_neg hc'] at h
      exact List.cons.inj h

/-- A quote that belongs to the field is followed by another one, which the closing one is not. -/
theorem escaped_cons_ne {c : Char} {cs rest rest' : List Char} (hrest' : rest'.head? ≠ some '"') :
    (c :: cs).flatMap escapeChar ++ '"' :: rest ≠ '"' :: rest' := by
  intro h
  by_cases hc : c = '"'
  · subst hc
    obtain rfl := (List.cons.inj h).2
    exact hrest' rfl
  · rw [List.flatMap_cons, escapeChar, if_neg hc] at h
    exact hc (List.cons.inj h).1

/-- What is written between quotes ends at a quote behind which there is none. -/
theorem escaped_inj {cs cs' rest rest' : List Char} (hrest : rest.head? ≠ some '"')
    (hrest' : rest'.head? ≠ some '"')
    (h : cs.flatMap escapeChar ++ '"' :: rest = cs'.flatMap escapeChar ++ '"' :: rest') :
    cs = cs' ∧ rest = rest' := by
  induction cs generalizing cs' with
  | nil =>
    cases cs' with
    | nil => exact ⟨rfl, (List.cons.inj h).2⟩
    | cons c' cs' => exact absurd h.symm (escaped_cons_ne hrest)
  | cons c cs ih =>
    cases cs' with
    | nil => exact absurd h (escaped_cons_ne hrest')
    | cons c' cs' =>
      rw [List.flatMap_cons, List.flatMap_cons, List.append_assoc, List.append_assoc] at h
      obtain ⟨rfl, htail⟩ := escapeChar_append_inj h
      obtain ⟨rfl, hrests⟩ := ih htail
      exact ⟨rfl, hrests⟩

/-- A field is found in one way only, up to the comma or the line feed behind it. -/
theorem FieldText.unique {field field' text text' rest rest' : List Char} {c c' : Char}
    (h : FieldText Bare field text) (h' : FieldText Bare field' text')
    (hc : c = ',' ∨ c = '\n') (hc' : c' = ',' ∨ c' = '\n')
    (heq : text ++ c :: rest = text' ++ c' :: rest') : field = field' ∧ c = c' ∧ rest = rest' := by
  have hnone : ∀ {c : Char}, c = ',' ∨ c = '\n' → ¬ Bare c ∧ c ≠ '"' := by
    rintro c (rfl | rfl) <;> simp [Bare]
  -- A field without quotes begins with none, and neither does what follows it.
  have hbegins : ∀ {field rest rest' : List Char} {c : Char}, (∀ d ∈ field, Bare d) →
      c = ',' ∨ c = '\n' → field ++ c :: rest ≠ '"' :: rest' := by
    intro field rest rest' c hfield hc heq
    cases field with
    | nil => exact (hnone hc).2 (List.cons.inj heq).1
    | cons d field => exact (hfield d List.mem_cons_self).2.1 (List.cons.inj heq).1
  cases h with
  | bare hfield =>
    cases h' with
    | bare hfield' => exact append_cons_inj hfield hfield' (hnone hc).1 (hnone hc').1 heq
    | quoted =>
      rw [List.append_assoc, List.cons_append] at heq
      exact absurd heq (hbegins hfield hc)
  | quoted =>
    cases h' with
    | bare hfield' =>
      rw [List.append_assoc, List.cons_append] at heq
      exact absurd heq.symm (hbegins hfield' hc')
    | quoted =>
      have hrest : ∀ {c : Char} {rest : List Char}, c = ',' ∨ c = '\n' →
          (c :: rest).head? ≠ some '"' := fun hc heq => (hnone hc).2 (Option.some.inj heq)
      rw [List.append_assoc, List.append_assoc, List.cons_append, List.cons_append] at heq
      obtain ⟨rfl, htail⟩ := escaped_inj (hrest hc) (hrest hc') (List.cons.inj heq).2
      exact ⟨rfl, List.cons.inj htail⟩

/-- A line is found in one way only. -/
theorem LineText.unique {line line' : List String} {text text' rest rest' : List Char}
    (h : LineText Bare line text) (h' : LineText Bare line' text')
    (heq : text ++ rest = text' ++ rest') : line = line' ∧ rest = rest' := by
  induction h generalizing line' text' with
  | last hfield =>
    cases h' with
    | last hfield' =>
      rw [List.append_assoc, List.append_assoc] at heq
      obtain ⟨hfields, -, hrest⟩ := hfield.unique hfield' (.inr rfl) (.inr rfl) heq
      rw [String.toList_inj.1 hfields]
      exact ⟨rfl, hrest⟩
    | cons hfield' _ =>
      rw [List.append_assoc, List.append_assoc] at heq
      exact absurd (hfield.unique hfield' (.inr rfl) (.inl rfl) heq).2.1 (by decide)
  | cons hfield _ ih =>
    cases h' with
    | last hfield' =>
      rw [List.append_assoc, List.append_assoc] at heq
      exact absurd (hfield.unique hfield' (.inl rfl) (.inr rfl) heq).2.1 (by decide)
    | cons hfield' hrest' =>
      rw [List.append_assoc, List.append_assoc, List.cons_append, List.cons_append] at heq
      obtain ⟨hfields, -, htail⟩ := hfield.unique hfield' (.inl rfl) (.inl rfl) heq
      obtain ⟨rfl, hrest⟩ := ih hrest' htail
      rw [String.toList_inj.1 hfields]
      exact ⟨rfl, hrest⟩

/-- A line is never empty: it ends with a line feed. -/
theorem LineText.ne_nil {bare : Char → Prop} {line : List String} {text : List Char}
    (h : LineText bare line text) : text ≠ [] := by
  cases h <;> simp

theorem LinesText.unique {lines lines' : List (List String)} {text : List Char}
    (h : LinesText Bare lines text) (h' : LinesText Bare lines' text) : lines = lines' := by
  induction h generalizing lines' with
  | nil =>
    generalize hnil : ([] : List Char) = text at h'
    cases h' with
    | nil => rfl
    | cons hline _ => exact absurd (List.append_eq_nil_iff.1 hnil.symm).1 hline.ne_nil
  | @cons line lines text rest hline _ ih =>
    generalize heq : text ++ rest = whole at h'
    cases h' with
    | nil => exact absurd (List.append_eq_nil_iff.1 heq).1 hline.ne_nil
    | cons hline' hlines' =>
      obtain ⟨rfl, rfl⟩ := hline.unique hline' heq
      rw [ih hlines']

/-- **A text holds its lines and no other ones.** -/
theorem Holds.unique {text : String} {lines lines' : List (List String)}
    (h : Holds Bare text lines) (h' : Holds Bare text lines') : lines = lines' :=
  LinesText.unique h h'

section

variable {bare bare' : Char → Prop}

/-- A text begins as its first field does, or with a quote. -/
theorem Holds.head_eq {text field : String} {fields : List String} {lines : List (List String)}
    (h : Holds bare text ((field :: fields) :: lines)) {c : Char} {cs : List Char}
    (hfield : field.toList = c :: cs) :
    text.toList.head? = some c ∨ text.toList.head? = some '"' := by
  have hhead : ∀ {part : List Char}, FieldText bare field.toList part →
      part.head? = some c ∨ part.head? = some '"' := by
    intro part hpart
    cases hpart with
    | bare => exact .inl (by rw [hfield]; rfl)
    | quoted => exact .inr rfl
  have hmore : ∀ {part rest : List Char} {d : Char}, part.head? = some d →
      (part ++ rest).head? = some d := by
    intro part rest d hpart
    rw [List.head?_append, hpart]
    rfl
  rw [Holds] at h
  generalize text.toList = cs' at h
  cases h with
  | cons hline _ =>
    cases hline with
    | last hpart =>
      exact (hhead hpart).imp (fun hc => hmore (hmore hc)) fun hc => hmore (hmore hc)
    | cons hpart _ =>
      exact (hhead hpart).imp (fun hc => hmore (hmore hc)) fun hc => hmore (hmore hc)

/-! ### Carriage returns -/

theorem FieldText.mono {field text : List Char} (h : FieldText bare field text)
    (hbare : ∀ c ∈ field, bare c → bare' c) : FieldText bare' field text := by
  cases h with
  | bare hfield => exact .bare fun c hc => hbare c hc (hfield c hc)
  | quoted => exact .quoted field

theorem LineText.mono {line : List String} {text : List Char} (h : LineText bare line text)
    (hbare : ∀ field ∈ line, ∀ c ∈ field.toList, bare c → bare' c) : LineText bare' line text := by
  induction h with
  | last hfield => exact .last (hfield.mono (hbare _ List.mem_cons_self))
  | cons hfield _ ih =>
    rw [List.forall_mem_cons] at hbare
    exact .cons (hfield.mono hbare.1) (ih hbare.2)

theorem LinesText.mono {lines : List (List String)} {text : List Char}
    (h : LinesText bare lines text)
    (hbare : ∀ line ∈ lines, ∀ field ∈ line, ∀ c ∈ field.toList, bare c → bare' c) :
    LinesText bare' lines text := by
  induction h with
  | nil => exact .nil
  | cons hline _ ih =>
    rw [List.forall_mem_cons] at hbare
    exact .cons (hline.mono hbare.1) (ih hbare.2)

end

/-- Readers differ only where there are carriage returns. -/
theorem Holds.plain {text : String} {lines : List (List String)} (h : Holds Bare text lines)
    (hreturn : ∀ line ∈ lines, ∀ field ∈ line, '\r' ∉ field.toList) : Holds Plain text lines := by
  refine LinesText.mono h fun line hline field hfield c hc hbare => ⟨hbare, ?_⟩
  rintro rfl
  exact hreturn line hline field hfield hc

/-! ### The writer -/

theorem needsQuotes_eq_false_iff (c : Char) : needsQuotes c = false ↔ Bare c := by
  simp [needsQuotes, Bare, and_assoc]

theorem fieldText_writeField (field : String) :
    FieldText Bare field.toList (writeField field).toList := by
  rw [writeField]
  by_cases hquotes : field.toList.any needsQuotes = true
  · rw [if_pos hquotes, String.toList_ofList]
    exact .quoted field.toList
  · rw [if_neg hquotes]
    refine .bare fun c hc => (needsQuotes_eq_false_iff c).1 ?_
    simp only [List.any_eq_true, not_exists, not_and, Bool.not_eq_true] at hquotes
    exact hquotes c hc

theorem lineText_writeLine {line : List String} (h : line ≠ []) :
    LineText Bare line (writeLine line).toList := by
  induction line with
  | nil => exact absurd rfl h
  | cons field fields ih =>
    cases fields with
    | nil =>
      have htext : (writeLine [field]).toList = (writeField field).toList ++ ['\n'] := by
        simp [writeLine]
      rw [htext]
      exact .last (fieldText_writeField field)
    | cons field' fields =>
      have htext : (writeLine (field :: field' :: fields)).toList =
          (writeField field).toList ++ ',' :: (writeLine (field' :: fields)).toList := by
        simp [writeLine]
      rw [htext]
      exact .cons (fieldText_writeField field) (ih (List.cons_ne_nil _ _))

/-- **What is written holds the lines.** -/
theorem holds_write {lines : List (List String)} (h : ∀ line ∈ lines, line ≠ []) :
    Holds Bare (write lines) lines := by
  induction lines with
  | nil => exact .nil
  | cons line lines ih =>
    rw [List.forall_mem_cons] at h
    have htext : (write (line :: lines)).toList = (writeLine line).toList ++ (write lines).toList := by
      simp [write]
    rw [Holds, htext]
    exact .cons (lineText_writeLine h.1) (ih h.2)

/-! ### The reader -/

/-- The modes outside quotes, in the first field of a line or in a later one. -/
def Mode.unquoted (first : Bool) : Mode → Bool
  | .bare => true
  | .lineStart | .blankLine => first
  | .fieldStart => !first
  | _ => false

/-- The mode at the start of a field. -/
def Mode.start (first : Bool) : Mode := if first then .lineStart else .fieldStart

theorem Mode.unquoted_start (first : Bool) : (Mode.start first).unquoted first = true := by
  cases first <;> rfl

namespace Scan

/-- A quote at the start of a field opens it. -/
theorem step_opening (first : Bool) {s : Scan} (hs : s.mode = .start first) :
    s.step '"' = { s with mode := .quoted } := by
  cases first <;> simp [step, hs, Mode.start, stepLineStart, stepFieldStart]

/-- A character that stands for itself without quotes is taken as it is. -/
theorem stepBare_of_plain {c : Char} (hc : Plain c) (s : Scan) : s.stepBare c = s.push .bare c := by
  obtain ⟨⟨hcomma, -, hfeed⟩, hreturn⟩ := hc
  rw [stepBare, if_neg hcomma, if_neg hfeed, if_neg hreturn]

theorem stepFieldStart_of_plain {c : Char} (hc : Plain c) (s : Scan) :
    s.stepFieldStart c = s.push .bare c := by
  rw [stepFieldStart, if_neg hc.1.2.1, stepBare_of_plain hc]

/-- It belongs to the field, and the field goes on without quotes. -/
theorem step_plain {first : Bool} {s : Scan} {c : Char} (hc : Plain c)
    (hs : s.mode.unquoted first = true) :
    ∃ mode : Mode, mode.unquoted first = true ∧ s.step c = s.push mode c := by
  have hfeed : c ≠ '\n' := hc.1.2.2
  -- A blank at the start of a line leaves open whether the line is passed over.
  cases hm : s.mode <;> simp only [hm, Mode.unquoted, Bool.false_eq_true] at hs
  case lineStart =>
    rw [step, hm]
    simp only [stepLineStart, if_neg hfeed, if_neg hc.2]
    split
    · exact ⟨.blankLine, hs, rfl⟩
    · exact ⟨.bare, rfl, stepFieldStart_of_plain hc s⟩
  case blankLine =>
    rw [step, hm]
    simp only [stepBlankLine, if_neg hfeed, if_neg hc.2]
    split
    · exact ⟨.blankLine, hs, rfl⟩
    · exact ⟨.bare, rfl, stepBare_of_plain hc s⟩
  case fieldStart =>
    rw [step, hm]
    exact ⟨.bare, rfl, stepFieldStart_of_plain hc s⟩
  case bare =>
    rw [step, hm]
    exact ⟨.bare, rfl, stepBare_of_plain hc s⟩

/-- A comma ends every field. -/
theorem step_comma {first : Bool} {s : Scan}
    (hs : s.mode.unquoted first = true ∨ s.mode = .afterQuote) : s.step ',' = s.endField := by
  cases hm : s.mode <;> simp_all [step, Mode.unquoted, stepLineStart, stepFieldStart, stepBare,
    stepBlankLine]

/-- A line feed ends a line with several fields. -/
theorem step_feed {s : Scan} (hs : s.mode.unquoted false = true ∨ s.mode = .afterQuote) :
    s.step '\n' = s.endLine .lineStart := by
  cases hm : s.mode <;> simp_all [step, Mode.unquoted, stepFieldStart, stepBare]

theorem run_append (s : Scan) (cs cs' : List Char) : s.run (cs ++ cs') = (s.run cs).run cs' :=
  List.foldl_append

/-- Plain characters are taken one after the other. -/
theorem run_plain {first : Bool} {cs : List Char} (hcs : ∀ c ∈ cs, Plain c) {s : Scan}
    (hs : s.mode.unquoted first = true) :
    ∃ mode : Mode, mode.unquoted first = true ∧
      s.run cs = ⟨mode, cs.reverse ++ s.field, s.fields, s.lines⟩ := by
  induction cs generalizing s with
  | nil => exact ⟨s.mode, hs, rfl⟩
  | cons c cs ih =>
    rw [List.forall_mem_cons] at hcs
    obtain ⟨mode, hmode, hstep⟩ := step_plain hcs.1 hs
    obtain ⟨last, hlast, hrun⟩ := ih hcs.2 (s := s.push mode c) hmode
    refine ⟨last, hlast, ?_⟩
    rw [run_cons, hstep, hrun]
    simp [push]

/-- Characters that are written between quotes are found there. -/
theorem run_escaped (cs field : List Char) (fields : List String) (lines : List (List String)) :
    Scan.run ⟨.quoted, field, fields, lines⟩ (cs.flatMap escapeChar) =
      ⟨.quoted, cs.reverse ++ field, fields, lines⟩ := by
  induction cs generalizing field with
  | nil => rfl
  | cons c cs ih =>
    have hchar : Scan.run ⟨.quoted, field, fields, lines⟩ (escapeChar c) =
        ⟨.quoted, c :: field, fields, lines⟩ := by
      by_cases hc : c = '"' <;> simp [escapeChar, hc, step, push]
    rw [List.flatMap_cons, run_append, hchar, ih, List.reverse_cons, List.append_assoc]
    rfl

/-- **A field is found**, between quotes or without. -/
theorem run_field {field text : List Char} (h : FieldText Plain field text) (first : Bool)
    (fields : List String) (lines : List (List String)) :
    ∃ mode : Mode, (mode.unquoted first = true ∨ mode = .afterQuote) ∧
      Scan.run ⟨.start first, [], fields, lines⟩ text = ⟨mode, field.reverse, fields, lines⟩ := by
  cases h with
  | bare hfield =>
    obtain ⟨mode, hmode, hrun⟩ := run_plain hfield (s := ⟨.start first, [], fields, lines⟩)
      (Mode.unquoted_start first)
    rw [List.append_nil] at hrun
    exact ⟨mode, .inl hmode, hrun⟩
  | quoted =>
    refine ⟨.afterQuote, .inr rfl, ?_⟩
    rw [List.cons_append, run_cons, step_opening first rfl, run_append, run_escaped,
      List.append_nil]
    rfl

/-- **A line is found** if it has several fields, or goes on behind some. -/
theorem run_line {line : List String} {text : List Char} (h : LineText Plain line text)
    (first : Bool) (hline : first = true → 2 ≤ line.length) (fields : List String)
    (lines : List (List String)) :
    Scan.run ⟨.start first, [], fields, lines⟩ text =
      ⟨.lineStart, [], [], (fields.reverse ++ line) :: lines⟩ := by
  induction h generalizing first fields with
  | @last field text hfield =>
    obtain rfl : first = false := by
      cases first with
      | false => rfl
      | true => exact absurd (hline rfl) (by simp)
    obtain ⟨mode, hmode, hrun⟩ := run_field hfield false fields lines
    rw [run_append, hrun, run_cons, step_feed hmode, run_nil]
    simp [endLine, endField]
  | @cons field rest text tail hfield _ ih =>
    obtain ⟨mode, hmode, hrun⟩ := run_field hfield first fields lines
    have hcomma : Scan.step ⟨mode, field.toList.reverse, fields, lines⟩ ',' =
        ⟨.start false, [], field :: fields, lines⟩ := by
      rw [step_comma hmode]
      simp [endField, Mode.start]
    rw [run_append, hrun, run_cons, hcomma, ih false nofun]
    simp

/-- **Lines are found** one after the other. -/
theorem run_lines {lines : List (List String)} {text : List Char} (h : LinesText Plain lines text)
    (hlines : ∀ line ∈ lines, 2 ≤ line.length) (before : List (List String)) :
    Scan.run ⟨.lineStart, [], [], before⟩ text =
      ⟨.lineStart, [], [], lines.reverse ++ before⟩ := by
  induction h generalizing before with
  | nil => rfl
  | @cons line lines text rest hline _ ih =>
    rw [List.forall_mem_cons] at hlines
    have hrun : Scan.run ⟨.lineStart, [], [], before⟩ text =
        ⟨.lineStart, [], [], line :: before⟩ := run_line hline true (fun _ => hlines.1) [] before
    rw [run_append, hrun, ih hlines.2]
    simp

end Scan

theorem dropMark_of_unmarked {cs : List Char} (h : cs.head? ≠ some '\uFEFF') : dropMark cs = cs := by
  rw [dropMark.eq_def]
  split
  · exact absurd rfl h
  · rfl

/-- The lines of a text are found if each of them has several fields. -/
theorem scan_of_holds {text : String} {lines : List (List String)} (h : Holds Plain text lines)
    (hlines : ∀ line ∈ lines, 2 ≤ line.length) (hmark : text.toList.head? ≠ some '\uFEFF') :
    scan text = .ok lines := by
  have hrun : Scan.start.run text.toList = ⟨.lineStart, [], [], lines.reverse ++ []⟩ :=
    Scan.run_lines h hlines []
  rw [scan, dropMark_of_unmarked hmark, hrun, Scan.finish]
  simp

/-! ### Tables -/

/-- A table is as wide as its header at least. -/
theorem length_le_width (header : List String) (lines : List (List String)) :
    header.length ≤ width header lines := by
  cases lines with
  | nil => exact Nat.le_refl _
  | cons line lines => exact Nat.le_max_left _ _

/-- Every row of a table that was made of lines has a text for each column. -/
theorem fields_of_tableOf {lines : List (List String)} {table : WayTable}
    (h : tableOf lines = .ok table) {row : List Json} (hrow : row ∈ table.rows) :
    ∃ fields : List String, row = fields.map Json.text ∧ fields.length = table.columns.length := by
  cases lines with
  | nil => cases h
  | cons header lines =>
    simp only [tableOf] at h
    split at h
    · cases h
    · next hshort =>
      obtain rfl := Except.ok.inj h
      obtain ⟨line, hline, rfl⟩ := List.mem_map.1 hrow
      refine ⟨_, rfl, ?_⟩
      have hfits : line.length ≤ width header lines := by
        simp only [List.any_eq_true, decide_eq_true_eq, not_exists, not_and, Nat.not_lt] at hshort
        exact hshort line hline
      have hheader := length_le_width header lines
      simp only [pad, List.length_drop, List.length_append, List.length_replicate]
      omega

theorem fields_of_read {text : String} {table : WayTable} (h : read text = .ok table)
    {row : List Json} (hrow : row ∈ table.rows) :
    ∃ fields : List String, row = fields.map Json.text ∧ fields.length = table.columns.length := by
  rw [read] at h
  cases hs : scan text with
  | error f =>
    rw [hs] at h
    cases h
  | ok lines =>
    rw [hs] at h
    exact fields_of_tableOf h hrow

/-- Lines that are as long as their header make a table as they are. -/
theorem tableOf_of_complete {columns : List String} {lines : List (List String)}
    (h : ∀ line ∈ lines, line.length = columns.length) :
    tableOf (columns :: lines) = .ok (.ofLines columns lines) := by
  have hwidth : width columns lines = columns.length := by
    cases lines with
    | nil => rfl
    | cons line lines => rw [width, h line List.mem_cons_self, Nat.max_self]
  have hshort : (lines.any fun line => decide (columns.length < line.length)) = false := by
    rw [List.any_eq_false]
    intro line hline
    simp [h line hline]
  have hrows : ∀ line ∈ lines, ((pad columns.length line).drop (columns.length - columns.length)).map
      Json.text = line.map Json.text := by
    intro line hline
    rw [pad, h line hline, Nat.sub_self]
    simp
  simp only [tableOf, hwidth, hshort, Bool.false_eq_true, if_false, WayTable.ofLines]
  rw [List.map_congr_left hrows]

/-- **A regular text is read as its lines.** -/
theorem read_of_regular {text : String} {columns : List String} {lines : List (List String)}
    (h : Regular text columns lines) : read text = .ok (.ofLines columns lines) := by
  have hlines : ∀ line ∈ columns :: lines, 2 ≤ line.length := by
    rw [List.forall_mem_cons]
    refine ⟨h.several, fun line hline => ?_⟩
    rw [h.complete line hline]
    exact h.several
  rw [read, scan_of_holds h.holds hlines h.unmarked]
  exact tableOf_of_complete h.complete

/-! ### The library -/

/-- **What is known of libraries of tables** is true of the one that reads and writes plain texts. -/
theorem library_lawful : library.Lawful where
  read_texts {path content table row} h hrow := by
    cases content with
    | bytes bs => cases h
    | text s => exact fields_of_read (Outcome.ok_of_mapError h) hrow
  read_regular {path content text columns lines} htext h := by
    cases content with
    | bytes bs => cases htext
    | text s =>
      obtain rfl := Option.some.inj htext
      exact congrArg (Except.mapError ReadFault.kind) (read_of_regular h)
  write_holds {path table content} hsimple h := by
    obtain rfl := Except.ok.inj h
    refine ⟨_, rfl, holds_write ?_⟩
    rw [WayTable.lines, List.forall_mem_cons, List.forall_mem_map]
    refine ⟨hsimple.columns, fun row hrow hnil => hsimple.columns ?_⟩
    have hlength := hsimple.complete row hrow
    rw [List.map_eq_nil_iff.1 hnil] at hlength
    exact List.length_eq_zero_iff.1 hlength.symm
  column := ColumnRule.lawful_inferred

end RoadAccess.Csv
