import RoadAccess.Command.Disk
import RoadAccess.Csv.Format
import RoadAccess.Table.Basic
import RoadAccess.Table.Column

namespace RoadAccess

/-!
# The library of tables

Tables are read from files and written to them by a library.  Of its ways of doing so only some are
known.

* `WayTable.lines` — the lines that a table is written as; `WayTable.Simple` — a table of which this is
  known;
* `Command.TableLibrary` — a library;
* `Command.TableLibrary.Lawful` — what is known of it: what it reads are texts, what it writes are the
  lines of the table, and it reads regular texts for what they are.
-/

namespace WayTable

/-- The lines that a table is written as. -/
def lines (t : WayTable) : List (List String) := t.columns :: t.rows.map (·.map Json.label)

/-- A table of texts and truth values, with a cell for each column. -/
structure Simple (t : WayTable) : Prop where
  columns : t.columns ≠ []
  complete : ∀ row ∈ t.rows, row.length = t.columns.length
  cells : ∀ row ∈ t.rows, ∀ cell ∈ row, (∃ s, cell = .text s) ∨ ∃ b, cell = .bool b

/-- The table of texts with these columns and lines. -/
def ofLines (columns : List String) (lines : List (List String)) : WayTable :=
  ⟨columns, lines.map (·.map .text)⟩

end WayTable

namespace Command

/-- A library of tables.  What it does with a file may depend on the path. -/
structure TableLibrary where
  /-- The text that a content stands for. -/
  text? : Path → Content → Option String
  /-- The table that it finds in a content. -/
  read : Path → Content → Except ErrorKind WayTable
  /-- The content that it writes for a table. -/
  write : Path → WayTable → Except ErrorKind Content
  /-- The rule by which it finds out the types of columns. -/
  column : ColumnRule

/-- What is known of a library. -/
structure TableLibrary.Lawful (library : TableLibrary) : Prop where
  /-- All it reads are texts, one for each column. -/
  read_texts : ∀ {path content table row}, library.read path content = .ok table →
    row ∈ table.rows →
    ∃ fields : List String, row = fields.map Json.text ∧ fields.length = table.columns.length
  /-- Regular texts it reads for what they are. -/
  read_regular : ∀ {path content text columns lines}, library.text? path content = some text →
    Csv.Regular text columns lines → library.read path content = .ok (.ofLines columns lines)
  /-- What it writes for a table is a text that holds the lines of the table. -/
  write_holds : ∀ {path table content}, table.Simple → library.write path table = .ok content →
    ∃ text, library.text? path content = some text ∧ Csv.Holds Csv.Bare text table.lines
  column : library.column.Lawful

end Command

end RoadAccess
