import RoadAccess.Table.Basic

namespace RoadAccess.Csv

/-!
# Reading comma-separated tables

A text is read in one pass, character by character.

* a field is quoted if its first character is a quote; there, two quotes stand for one, and
  commas and line ends belong to the field; what follows the closing quote up to the next comma
  or line end belongs to the field too, quotes included;
* a line ends with a line feed, a carriage return or both, and empty lines and lines of spaces and
  tabs alone are passed over;
* a comma right after the lone carriage return of a line passed over belongs to that line end,
  unless spaces or tabs and then a field follow: there the comma ends an empty field;
* a byte order mark in front is dropped;
* `scan` — the lines of a text as lists of fields;
* `tableOf` — the lines as a table.  The first line names the columns.  Its width and that of the
  second line settle the width of the table: shorter lines are filled with empty cells, and a
  longer line is refused.  Where the second line is wider than the first, the columns too many are
  in front and have no name.
-/

/-- Why a text holds no table. -/
inductive ReadFault where
  /-- There are no lines. -/
  | empty
  /-- A quoted field is not closed. -/
  | openQuote
  /-- A line has more fields than the lines before it. -/
  | lineTooLong
  deriving DecidableEq, Repr

/-! ### The scan -/

/-- Where a scan stands. -/
inductive Mode where
  /-- At the start of a line. -/
  | lineStart
  /-- After a carriage return that ended a line. -/
  | afterReturn
  /-- After a carriage return that ended a line passed over. -/
  | afterBlankReturn
  /-- Behind the comma that belongs to the end of a line passed over. -/
  | afterBlankComma
  /-- In a line that holds only spaces and tabs so far, a comma of the line end before it apart. -/
  | blankLine
  /-- At the start of a field that is not the first of its line. -/
  | fieldStart
  /-- In a field that is not quoted, or behind its closing quote. -/
  | bare
  /-- Between quotes. -/
  | quoted
  /-- Behind a quote that closes the field or stands for one with the next. -/
  | afterQuote
  deriving DecidableEq, Repr

/-- What a scan has read, latest first: the characters of the field, the fields of the line, the
    lines. -/
structure Scan where
  mode : Mode
  field : List Char
  fields : List String
  lines : List (List String)
  deriving DecidableEq, Repr

namespace Scan

/-- A scan that has read nothing. -/
def start : Scan := ⟨.lineStart, [], [], []⟩

/-- The field is complete. -/
def endField (s : Scan) : Scan :=
  { s with
    mode := .fieldStart
    field := []
    fields := String.ofList s.field.reverse :: s.fields }

/-- The line is complete. -/
def endLine (s : Scan) (mode : Mode) : Scan :=
  let s := s.endField
  ⟨mode, [], [], s.fields.reverse :: s.lines⟩

/-- The character belongs to the field. -/
def push (s : Scan) (mode : Mode) (c : Char) : Scan := { s with mode, field := c :: s.field }

/-- A character of a field that is not quoted. -/
def stepBare (s : Scan) (c : Char) : Scan :=
  if c = ',' then s.endField
  else if c = '\n' then s.endLine .lineStart
  else if c = '\r' then s.endLine .afterReturn
  else s.push .bare c

/-- The first character of a field. -/
def stepFieldStart (s : Scan) (c : Char) : Scan :=
  if c = '"' then { s with mode := .quoted } else s.stepBare c

/-- The line is passed over. -/
def passLine (s : Scan) (mode : Mode) : Scan := ⟨mode, [], [], s.lines⟩

/-- The first character of a line. -/
def stepLineStart (s : Scan) (c : Char) : Scan :=
  if c = '\n' then s.passLine .lineStart
  else if c = '\r' then s.passLine .afterBlankReturn
  else if c = ' ' ∨ c = '\t' then s.push .blankLine c
  else s.stepFieldStart c

/-- A character of a line that holds only spaces and tabs so far. -/
def stepBlankLine (s : Scan) (c : Char) : Scan :=
  if c = '\n' then s.passLine .lineStart
  else if c = '\r' then s.passLine .afterBlankReturn
  else if c = ' ' ∨ c = '\t' then s.push .blankLine c
  else s.stepBare c

/-- The character after the carriage return that ended a line passed over. -/
def stepBlankReturn (s : Scan) (c : Char) : Scan :=
  if c = '\n' then { s with mode := .lineStart }
  else if c = ',' then { s with mode := .afterBlankComma }
  else s.stepLineStart c

/-- The character behind a comma that belongs to the end of a line passed over.  A space or a tab
    leaves open whether the comma ends an empty field. -/
def stepBlankComma (s : Scan) (c : Char) : Scan :=
  if c = ' ' ∨ c = '\t' then s.endField.push .blankLine c
  else s.stepLineStart c

/-- Reads a character. -/
def step (s : Scan) (c : Char) : Scan :=
  match s.mode with
  | .lineStart => s.stepLineStart c
  | .afterReturn => if c = '\n' then { s with mode := .lineStart } else s.stepLineStart c
  | .afterBlankReturn => s.stepBlankReturn c
  | .afterBlankComma => s.stepBlankComma c
  | .blankLine => s.stepBlankLine c
  | .fieldStart => s.stepFieldStart c
  | .bare => s.stepBare c
  | .quoted => if c = '"' then { s with mode := .afterQuote } else s.push .quoted c
  | .afterQuote => if c = '"' then s.push .quoted c else s.stepBare c

/-- The lines of a scan at the end of the text; a field between quotes has to be closed. -/
def finish (s : Scan) : Except ReadFault (List (List String)) :=
  match s.mode with
  | .lineStart | .afterReturn | .afterBlankReturn | .afterBlankComma | .blankLine =>
    .ok s.lines.reverse
  | .quoted => .error .openQuote
  | .fieldStart | .bare | .afterQuote => .ok (s.endLine .lineStart).lines.reverse

/-- Reads characters one after the other. -/
def run (s : Scan) (cs : List Char) : Scan := cs.foldl step s

@[simp] theorem run_nil (s : Scan) : s.run [] = s := rfl

@[simp] theorem run_cons (s : Scan) (c : Char) (cs : List Char) :
    s.run (c :: cs) = (s.step c).run cs := rfl

end Scan

/-- The characters without a byte order mark in front. -/
def dropMark : List Char → List Char
  | '\uFEFF' :: cs => cs
  | cs => cs

/-- The lines of a text. -/
def scan (text : String) : Except ReadFault (List (List String)) :=
  (Scan.start.run (dropMark text.toList)).finish

/-! ### The table -/

/-- A line filled with empty fields up to a width. -/
def pad (width : Nat) (line : List String) : List String :=
  line ++ List.replicate (width - line.length) ""

/-- The width of a table with this header and these lines. -/
def width (header : List String) : List (List String) → Nat
  | [] => header.length
  | line :: _ => max header.length line.length

/-- The lines as a table. -/
def tableOf : List (List String) → Except ReadFault WayTable
  | [] => .error .empty
  | header :: lines =>
    let w := width header lines
    if lines.any fun line => w < line.length then .error .lineTooLong
    else .ok ⟨header, lines.map fun line =>
      ((pad w line).drop (w - header.length)).map Json.text⟩

/-- The table that a text holds. -/
def read (text : String) : Except ReadFault WayTable := (scan text).bind tableOf

end RoadAccess.Csv
