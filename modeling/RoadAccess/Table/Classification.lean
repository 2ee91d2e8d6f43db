import RoadAccess.Edge.Classifier
import RoadAccess.Table.Basic
import RoadAccess.Table.Column

namespace RoadAccess

/-!
# Classifying a table of ways

The ways of a table are classified row by row with one table of flags, in which a way is the edge
whose identifier is its position.

* `Classifier.classifyRow` — one row;
* `Classifier.classifyRows` — several rows, up to the first that cannot be classified;
* `Classifier.classifyTable` — all rows of a table; the columns are looked at before any row;
* `Classifier.classifyFrame` — the table that the classified ways make: their identifiers are a column
  of it, and come out as the rule for columns has it.
-/

/-- A classified way.  One that stays out of the network is closed in both senses. -/
structure WayRecord where
  way : Json
  access : Access
  directions : Directions

namespace Classifier

/-- Classifies the row at a position, counted from zero. -/
def classifyRow (c : Classifier) (columns : List String) (s : FlagTable) (position : Nat)
    (row : List Json) : Outcome TableFault Event FlagTable WayRecord :=
  let way := WayTable.cell columns row "way_id"
  match WayTable.loadRow columns row with
  | .error cause => .fail s (.badRow (position + 1) way.label cause)
  | .ok (t, nodes) =>
    ((c.classifyWay s (Identifier.int position) t nodes).mapFault .unhandled).map
      fun (access, d) => ⟨way, access, d⟩

/-- Classifies rows from a position on, up to the first that cannot be classified. -/
def classifyRows (c : Classifier) (columns : List String) (s : FlagTable) (position : Nat) :
    List (List Json) → Outcome TableFault Event FlagTable (List WayRecord)
  | [] => .pure s []
  | row :: rows =>
    (c.classifyRow columns s position row).andThen fun s record =>
      (c.classifyRows columns s (position + 1) rows).map (record :: ·)

/-- Classifies the rows of a table.  The ways have the identifiers that stand in the rows. -/
def classifyTable (c : Classifier) (t : WayTable) :
    Outcome TableFault Event FlagTable (List WayRecord) :=
  match t.missingColumns with
  | [] => c.classifyRows t.columns .empty 0 t.rows
  | names => .fail .empty (.missingColumns names)

end Classifier

/-! ### The table of classified ways -/

/-- Classified ways as the rows of a table, with the identifiers that come out of the column that they
    make.  Words and truth values stay what they are in a column. -/
def ColumnRule.assemble (rule : ColumnRule) (records : List WayRecord) : List WayRecord :=
  List.zipWith (fun way record => { record with way }) (rule (records.map WayRecord.way)) records

/-- Classifies a table. -/
def Classifier.classifyFrame (rule : ColumnRule) (c : Classifier) (t : WayTable) :
    Outcome TableFault Event FlagTable (List WayRecord) :=
  (c.classifyTable t).map rule.assemble

end RoadAccess
