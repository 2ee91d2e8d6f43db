import RoadAccess.Proofs.Batches
import RoadAccess.Proofs.Failure

namespace RoadAccess

/-!
# Rows that cannot be used

What is wrong with the cells of a row is met when they are read, and is reported with the line and
the way.  What is wrong with the nodes of a row is met only when they are asked for, on an edge that
stands for a point barrier, and is reported as it is.

* `Classifier.NodesUnreadable` — the cells of a row can be read, but its nodes cannot when they are
  asked for; `Classifier.Usable` — nothing is wrong with a row;
* `Classifier.rowRecord_fails_iff`, `Classifier.exists_rowRecord_iff` — what a row comes to in
  either case;
* `Classifier.exists_rowRecords_iff`, `Classifier.classifyTable_fails_iff` — rows are classified
  exactly if all of them are usable, and fail at the first that is not;
* `row_errors` — which row a table fails at, and how;
* `unreadable_nodes_unreported` — a table that fails without naming a row.
-/

theorem WayTable.missingColumns_eq_nil {table : WayTable} (hway : "way_id" ∈ table.columns)
    (htags : "tags" ∈ table.columns) : table.missingColumns = [] := by
  simp [missingColumns, requiredColumns, hway, htags]

namespace Classifier

open WayTable

variable {c : Classifier} {columns : List String} {row : List Json}

/-! ### One row -/

/-- The cells of a row can be read, but its nodes are asked for and cannot be read. -/
def NodesUnreadable (c : Classifier) (columns : List String) (row : List Json) (f : Fault) : Prop :=
  ∃ t nodes, loadRow columns row = .ok (t, nodes) ∧ c.access t ≠ .skip ∧
    t.has barrierEdgeTag = true ∧ nodesFault? nodes = some f

/-- The cells of a row can be read, and so can its nodes if they are asked for. -/
def Usable (c : Classifier) (columns : List String) (row : List Json) : Prop :=
  (∃ loaded, loadRow columns row = .ok loaded) ∧ ∀ f, ¬ c.NodesUnreadable columns row f

/-- A row that fails has cells that cannot be used or nodes that are unreadable, and it names its
    line and its way only in the first case. -/
theorem rowRecord_fails_iff {position : Nat} {f : TableFault} :
    c.rowRecord columns position row = .error f ↔
      (∃ cause, loadRow columns row = .error cause ∧
        f = .badRow (position + 1) (cell columns row "way_id").label cause) ∨
      ∃ fault, c.NodesUnreadable columns row fault ∧ f = .unhandled fault := by
  rw [rowRecord_eq_error_iff]
  refine or_congr_right ?_
  constructor
  · rintro ⟨t, nodes, fault, hload, hv, rfl⟩
    exact ⟨fault, ⟨t, nodes, hload, verdict_eq_error_iff.1 hv⟩, rfl⟩
  · rintro ⟨fault, ⟨t, nodes, hload, hunreadable⟩, rfl⟩
    exact ⟨t, nodes, fault, hload, verdict_eq_error_iff.2 hunreadable, rfl⟩

/-- A row has a record exactly if nothing is wrong with it. -/
theorem exists_rowRecord_iff (position : Nat) :
    (∃ record, c.rowRecord columns position row = .ok record) ↔ c.Usable columns row := by
  constructor
  · rintro ⟨record, h⟩
    obtain ⟨t, nodes, -, hload, -, -⟩ := rowRecord_eq_ok h
    refine ⟨⟨_, hload⟩, fun f hf => ?_⟩
    rw [(rowRecord_fails_iff (c := c)).2 (.inr ⟨f, hf, rfl⟩)] at h
    cases h
  · rintro ⟨⟨loaded, hload⟩, hnodes⟩
    cases hr : c.rowRecord columns position row with
    | ok record => exact ⟨record, rfl⟩
    | error f =>
      rcases rowRecord_fails_iff.1 hr with ⟨cause, hcause, -⟩ | ⟨fault, hfault, -⟩
      · rw [hload] at hcause
        cases hcause
      · exact absurd hfault (hnodes fault)

/-! ### Several rows -/

/-- Rows are classified exactly if all of them are usable. -/
theorem exists_rowRecords_iff {position : Nat} {rows : List (List Json)} :
    (∃ records, c.rowRecords columns position rows = .ok records) ↔
      ∀ row ∈ rows, c.Usable columns row := by
  constructor
  · rintro ⟨records, h⟩ row hrow
    obtain ⟨i, hi⟩ := List.mem_iff_getElem?.1 hrow
    obtain ⟨record, hrecord, -⟩ := rowRecords_getElem? h hi
    exact (exists_rowRecord_iff _).1 ⟨record, hrecord⟩
  · intro husable
    cases h : c.rowRecords columns position rows with
    | ok records => exact ⟨records, rfl⟩
    | error f =>
      -- The rows would fail at one of them, and that one is usable.
      obtain ⟨before, row, rest, rfl, -, hrow⟩ := rowRecords_eq_error_iff.1 h
      have hmem : row ∈ before ++ row :: rest := by simp
      obtain ⟨record, hrecord⟩ := (exists_rowRecord_iff (position + before.length)).2
        (husable row hmem)
      rw [hrow] at hrecord
      cases hrecord

/-- A table with the required columns fails at the first row that is not usable, and as that row
    does. -/
theorem classifyTable_fails_iff {table : WayTable} (h : table.missingColumns = [])
    {f : TableFault} :
    (c.classifyTable table).result = .error f ↔
      ∃ before row rest, table.rows = before ++ row :: rest ∧
        (∀ earlier ∈ before, c.Usable table.columns earlier) ∧
        ((∃ cause, loadRow table.columns row = .error cause ∧
            f = .badRow (before.length + 1) (cell table.columns row "way_id").label cause) ∨
          ∃ fault, c.NodesUnreadable table.columns row fault ∧ f = .unhandled fault) := by
  rw [result_classifyTable h, rowRecords_eq_error_iff]
  refine exists_congr fun before => exists_congr fun row => exists_congr fun rest => ?_
  rw [exists_rowRecords_iff, rowRecord_fails_iff, Nat.zero_add]

end Classifier

/-! ### The whole table -/

/-- **Errors of rows.**  A table with the required columns is classified exactly if all its rows are
    usable.  Otherwise it fails at the first row that is not: if the cells of that row cannot be used
    the message names its line and its way, and if only its nodes cannot be read their fault is
    reported as it is.  So as long as no nodes are unreadable every failure names a row. -/
theorem row_errors (c : Classifier) (table : WayTable) (hway : "way_id" ∈ table.columns)
    (htags : "tags" ∈ table.columns) :
    ((∃ records, (c.classifyTable table).result = .ok records) ↔
      ∀ row ∈ table.rows, c.Usable table.columns row) ∧
    (∀ f, (c.classifyTable table).result = .error f ↔
      ∃ before row rest, table.rows = before ++ row :: rest ∧
        (∀ earlier ∈ before, c.Usable table.columns earlier) ∧
        ((∃ way cause, WayTable.loadRow table.columns row = .error cause ∧
            way = (WayTable.cell table.columns row "way_id").label ∧
            f = .badRow (before.length + 1) way cause ∧ f.kind = .value ∧
            f.heading = s!"Linha {before.length + 1} (way {way}) inválida: ") ∨
          ∃ fault, c.NodesUnreadable table.columns row fault ∧ f = .unhandled fault)) ∧
    ((∀ row ∈ table.rows, ∀ fault, ¬ c.NodesUnreadable table.columns row fault) →
      (∃ records, (c.classifyTable table).result = .ok records) ∨
        ∃ line way cause, (c.classifyTable table).result = .error (.badRow line way cause)) := by
  have hmissing := WayTable.missingColumns_eq_nil hway htags
  refine ⟨?_, fun f => ?_, fun hnodes => ?_⟩
  · rw [Classifier.result_classifyTable hmissing]
    exact Classifier.exists_rowRecords_iff
  · rw [Classifier.classifyTable_fails_iff hmissing]
    -- The kind of error and the message are those of the fault, spelled out.
    refine exists_congr fun before => exists_congr fun row => exists_congr fun rest =>
      and_congr_right' (and_congr_right' (or_congr_left ?_))
    constructor
    · rintro ⟨cause, hload, rfl⟩
      exact ⟨_, cause, hload, rfl, rfl, rfl, rfl⟩
    · rintro ⟨way, cause, hload, rfl, hf, -, -⟩
      exact ⟨cause, hload, hf⟩
  · cases h : (c.classifyTable table).result with
    | ok records => exact .inl ⟨records, rfl⟩
    | error f =>
      obtain ⟨before, row, rest, hrows, -, hrow⟩ := (Classifier.classifyTable_fails_iff hmissing).1 h
      have hmem : row ∈ table.rows := by simp [hrows]
      rcases hrow with ⟨cause, -, rfl⟩ | ⟨fault, hfault, -⟩
      · exact .inr ⟨_, _, _, rfl⟩
      · exact absurd hfault (hnodes row hmem fault)

/-- A row with a number for tags is named; a row whose node is a text, on an edge that stands for a
    point barrier, is not. -/
theorem row_errors_at_fence :
    let c : Classifier := {}
    let columns := ["way_id", "tags", "node_tags"]
    let path := [Json.int 1, .object [("highway", .text "path")], .null]
    let broken := [Json.int 2, .int 5, .null]
    let fence := [Json.int 3, .object [("highway", .text "path"), ("barrier_edge", .text "yes")],
      .array [.text "fence"]]
    "way_id" ∈ columns ∧ "tags" ∈ columns ∧
      c.Usable columns path ∧ c.NodesUnreadable columns fence .tagsNotObject ∧
      (∃ records, (c.classifyTable ⟨columns, [path]⟩).result = .ok records) ∧
      (c.classifyTable ⟨columns, [path, broken, fence]⟩).result =
        .error (.badRow 2 "2" .notText) ∧
      (c.classifyTable ⟨columns, [path, fence, broken]⟩).result =
        .error (.unhandled .tagsNotObject) := by
  intro c columns path broken fence
  have hway : "way_id" ∈ columns := by decide
  have htags : "tags" ∈ columns := by decide
  have hunreadable : c.NodesUnreadable columns fence .tagsNotObject :=
    ⟨_, _, rfl, by decide, rfl, rfl⟩
  have hpath : (c.classifyTable ⟨columns, [path]⟩).result =
      .ok [⟨.int 1, .routable, .both⟩] := rfl
  have husable : c.Usable columns path :=
    (row_errors c ⟨columns, [path]⟩ hway htags).1.1 ⟨_, hpath⟩ path List.mem_cons_self
  have hbefore : ∀ earlier ∈ [path], c.Usable columns earlier := by simpa using husable
  refine ⟨hway, htags, husable, hunreadable, ⟨_, hpath⟩, ?_, ?_⟩
  · exact ((row_errors c ⟨columns, _⟩ hway htags).2.1 _).2
      ⟨[path], broken, [fence], rfl, hbefore, .inl ⟨_, _, rfl, rfl, rfl, rfl, rfl⟩⟩
  · exact ((row_errors c ⟨columns, _⟩ hway htags).2.1 _).2
      ⟨[path], fence, [broken], rfl, hbefore, .inr ⟨_, hunreadable, rfl⟩⟩

/-- **Unreadable nodes go unreported.**  Not every failure names a row: a table can have the required
    columns and cells that can all be read, and fail at nodes of the wrong form without saying
    where. -/
theorem unreadable_nodes_unreported :
    ¬ ∀ (c : Classifier) (table : WayTable), "way_id" ∈ table.columns → "tags" ∈ table.columns →
      (∃ records, (c.classifyTable table).result = .ok records) ∨
        ∃ line way cause, (c.classifyTable table).result = .error (.badRow line way cause) := by
  intro h
  let table : WayTable :=
    { columns := ["way_id", "tags", "node_tags"]
      rows := [[.int 1, .object [("highway", .text "path"), ("barrier_edge", .text "yes")],
        .array [.text "fence"]]] }
  have hfails : (({} : Classifier).classifyTable table).result =
      .error (.unhandled .tagsNotObject) := rfl
  rcases h {} table (by decide) (by decide) with ⟨records, hok⟩ | ⟨line, way, cause, hbad⟩
  · rw [hfails] at hok
    cases hok
  · rw [hfails] at hbad
    cases hbad

end RoadAccess
