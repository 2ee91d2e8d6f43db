import RoadAccess.Fault
import RoadAccess.Json.Reader
import RoadAccess.Tags.Basic

namespace RoadAccess

/-!
# Tables of ways

A table has a row for each way: its identifier in the column `way_id`, its tags in `tags` and, if
there is such a column, the tags of its nodes in `node_tags`.

* `WayTable.cell` — the cell of a row under a column; of several columns with one name the first
  counts;
* `loadCell` — the value of a cell, which may hold the value itself, its JSON text, or nothing;
* `TableFault` — why a table cannot be classified.
-/

/-- A table: the names of its columns and its rows, one cell for each column. -/
structure WayTable where
  columns : List String
  rows : List (List Json)

/-- Why a cell cannot be used. -/
inductive CellFault where
  /-- The text of the cell is no JSON text. -/
  | notJson
  /-- The cell is a number or a truth value. -/
  | notText
  /-- The tags say something and are no object. -/
  | notObject
  deriving DecidableEq, Repr

/-- The kind of error that is met in a cell that cannot be used. -/
def CellFault.kind : CellFault → ErrorKind
  | .notJson => .json
  | .notText => .type
  | .notObject => .attribute

/-- Why a table cannot be classified. -/
inductive TableFault where
  /-- Required columns are not there. -/
  | missingColumns (names : List String)
  /-- A cell of a line cannot be used; lines are counted from one. -/
  | badRow (line : Nat) (way : String) (cause : CellFault)
  /-- A way cannot be handled. -/
  | unhandled (fault : Fault)
  deriving DecidableEq, Repr

/-- The kind of error with which the classification of a table ends. -/
def TableFault.kind : TableFault → ErrorKind
  | .missingColumns _ | .badRow .. => .value
  | .unhandled fault => fault.kind

/-- What the message about a table says.  That about a row goes on with the text of the error that was
    met in its cells, and a way that cannot be handled has no message but that of its own error. -/
def TableFault.heading : TableFault → String
  | .missingColumns names => "Colunas ausentes no CSV de ways: " ++ ", ".intercalate names
  | .badRow line way _ => s!"Linha {line} (way {way}) inválida: "
  | .unhandled _ => ""

/-- The value of a cell: a list or an object is itself, a cell that holds nothing has the given
    value, and a text is read. -/
def loadCell (cell other : Json) : Except CellFault Json :=
  match cell with
  | .object _ | .array _ => .ok cell
  | .null | .real .nan => .ok other
  | .text s =>
    if (Text.strip s).isEmpty then .ok other
    else match Json.parse s with
      | some v => .ok v
      | none => .error .notJson
  | .bool _ | .int _ | .real _ => .error .notText

namespace WayTable

/-- The columns that a table of ways has to have. -/
def requiredColumns : List String := ["way_id", "tags"]

/-- The required columns that are not there. -/
def missingColumns (t : WayTable) : List String := requiredColumns.filter (· ∉ t.columns)

/-- The cell of a row under a column. -/
def cell (columns : List String) (row : List Json) (name : String) : Json :=
  ((columns.zip row).lookup name).getD .null

/-- The tags of a row and of its nodes. -/
def loadRow (columns : List String) (row : List Json) : Except CellFault (Tags × Json) := do
  let way ← loadCell (cell columns row "tags") (.object [])
  match Tags.ofJson? way with
  | none => throw .notObject
  | some t =>
    let nodes ← loadCell (cell columns row "node_tags") (.array [])
    return (t, nodes)

end WayTable

end RoadAccess
