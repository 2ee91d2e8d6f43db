namespace RoadAccess.Csv

/-!
# Comma-separated texts

What it is for a text to hold lines of fields: fields stand between commas, each line ends with a line
feed, and a field stands as it is or between quotes, where a quote is written twice.

* `FieldText`, `LineText`, `LinesText` — the texts of a field, a line and several lines, where only some
  characters can stand without quotes;
* `Holds` — a text holds lines;
* `Bare`, `Plain` — the characters that can stand without quotes: all but commas, quotes and line feeds,
  and of these all but carriage returns, at which some readers end a line too;
* `Regular` — a text that every reader of tables takes for the table of these lines.
-/

/-- A character between quotes. -/
def escapeChar (c : Char) : List Char := if c = '"' then ['"', '"'] else [c]

/-- The texts of a field.  Only some characters can stand without quotes. -/
inductive FieldText (bare : Char → Prop) : List Char → List Char → Prop
  | bare {field : List Char} (h : ∀ c ∈ field, bare c) : FieldText bare field field
  | quoted (field : List Char) : FieldText bare field ('"' :: field.flatMap escapeChar ++ ['"'])

/-- The texts of a line of fields. -/
inductive LineText (bare : Char → Prop) : List String → List Char → Prop
  | last {field : String} {text : List Char} (h : FieldText bare field.toList text) :
      LineText bare [field] (text ++ ['\n'])
  | cons {field : String} {fields : List String} {text rest : List Char}
      (h : FieldText bare field.toList text) (hs : LineText bare fields rest) :
      LineText bare (field :: fields) (text ++ ',' :: rest)

/-- The texts of several lines. -/
inductive LinesText (bare : Char → Prop) : List (List String) → List Char → Prop
  | nil : LinesText bare [] []
  | cons {line : List String} {lines : List (List String)} {text rest : List Char}
      (h : LineText bare line text) (hs : LinesText bare lines rest) :
      LinesText bare (line :: lines) (text ++ rest)

/-- A text holds lines of fields. -/
def Holds (bare : Char → Prop) (text : String) (lines : List (List String)) : Prop :=
  LinesText bare lines text.toList

/-- A character that no reader takes for anything else than itself, unless it ends lines at carriage
    returns. -/
def Bare (c : Char) : Prop := c ≠ ',' ∧ c ≠ '"' ∧ c ≠ '\n'

/-- A character that no reader takes for anything else than itself. -/
def Plain (c : Char) : Prop := Bare c ∧ c ≠ '\r'

/-- A text that every reader of tables takes for the table with these columns and lines: there are two
    columns or more, with different names, and each line has a field for each of them. -/
structure Regular (text : String) (columns : List String) (lines : List (List String)) : Prop where
  holds : Holds Plain text (columns :: lines)
  several : 2 ≤ columns.length
  distinct : columns.Nodup
  named : "" ∉ columns
  complete : ∀ line ∈ lines, line.length = columns.length
  /-- There is no byte order mark in front. -/
  unmarked : text.toList.head? ≠ some '\uFEFF'

end RoadAccess.Csv
