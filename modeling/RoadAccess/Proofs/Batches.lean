import RoadAccess.Proofs.Columns
import RoadAccess.Proofs.Table

namespace RoadAccess

/-!
# Tables in parts

Rows are independent, so a table can be cut in two anywhere: its parts come to what the whole comes
to, but for the lines of the second part, which are counted from the cut.

* `TableFault.shift` — a fault with its line counted from further up;
* `Classifier.rowRecord_add`, `Classifier.rowRecords_add` — rows further down come to the same, with
  their lines shifted;
* `Classifier.rowRecords_append` — rows after rows;
* `Classifier.rowRecords_eq_error_iff` — rows fail at the first of them that fails;
* `Classifier.result_append` — a table is its two parts;
* `Classifier.record_of_classifyTable`, `Classifier.result_eq_badRow_iff` — what each row comes to, and
  which row is named;
* `Classifier.frame_append` — the tables that come out, where the ways of both parts make one column;
* `batches_compose` — the whole; `batches_share_column` — where it cannot say more.
-/

/-- The fault with its line, if it names one, counted from `k` lines further up. -/
def TableFault.shift (k : Nat) : TableFault → TableFault
  | .badRow line way cause => .badRow (line + k) way cause
  | fault => fault

theorem TableFault.shift_of_not_badRow {f : TableFault} (h : ∀ line way cause,
    f ≠ .badRow line way cause) (k : Nat) : f.shift k = f := by
  cases f with
  | badRow line way cause => exact absurd rfl (h line way cause)
  | missingColumns names => rfl
  | unhandled fault => rfl

namespace Classifier

open WayTable

variable {c : Classifier} {columns : List String}

/-! ### Rows further down -/

/-- A row comes to the same wherever it stands, but for its line. -/
theorem rowRecord_add (c : Classifier) (columns : List String) (position k : Nat)
    (row : List Json) :
    c.rowRecord columns (position + k) row =
      (c.rowRecord columns position row).mapError (TableFault.shift k) := by
  cases hload : loadRow columns row with
  | error cause =>
    have hline : position + k + 1 = position + 1 + k := by omega
    rw [rowRecord_of_unloaded hload, rowRecord_of_unloaded hload, hline]
    rfl
  | ok loaded =>
    obtain ⟨t, nodes⟩ := loaded
    rw [rowRecord_of_loaded hload, rowRecord_of_loaded hload]
    cases c.verdict t.isRoundabout t nodes <;> rfl

theorem rowRecords_add (c : Classifier) (columns : List String) (position k : Nat)
    (rows : List (List Json)) :
    c.rowRecords columns (position + k) rows =
      (c.rowRecords columns position rows).mapError (TableFault.shift k) := by
  induction rows generalizing position with
  | nil => rfl
  | cons row rows ih =>
    have hnext : position + k + 1 = position + 1 + k := by omega
    rw [rowRecords, rowRecords, rowRecord_add, hnext, ih]
    cases c.rowRecord columns position row with
    | error f => rfl
    | ok record => cases c.rowRecords columns (position + 1) rows <;> rfl

/-- Rows after rows: the first failure counts, and the records are those of both. -/
theorem rowRecords_append (c : Classifier) (columns : List String) (position : Nat)
    (rows rows' : List (List Json)) :
    c.rowRecords columns position (rows ++ rows') =
      match c.rowRecords columns position rows with
      | .error f => .error f
      | .ok records =>
        (c.rowRecords columns (position + rows.length) rows').map (records ++ ·) := by
  -- The position moves on with every row of the first part, so it is general in the induction.
  induction rows generalizing position with
  | nil =>
    show c.rowRecords columns position rows' = (c.rowRecords columns position rows').map _
    cases c.rowRecords columns position rows' <;> rfl
  | cons row rows ih =>
    have hposition : position + 1 + rows.length = position + (row :: rows).length := by
      rw [List.length_cons]
      omega
    rw [List.cons_append, rowRecords, rowRecords]
    cases c.rowRecord columns position row with
    | error f => rfl
    | ok record =>
      simp only [ih, hposition]
      cases c.rowRecords columns (position + 1) rows with
      | error f => rfl
      | ok records =>
        cases c.rowRecords columns (position + (row :: rows).length) rows' <;> rfl

theorem rowRecords_singleton_eq_error_iff {position : Nat} {row : List Json} {f : TableFault} :
    c.rowRecords columns position [row] = .error f ↔ c.rowRecord columns position row = .error f := by
  rw [rowRecords]
  cases c.rowRecord columns position row with
  | error f' => simp only [Except.error.injEq]
  | ok record => simp [rowRecords, Except.map]

/-- Rows fail as the first of them does that fails. -/
theorem rowRecords_eq_error_iff {position : Nat} {rows : List (List Json)} {f : TableFault} :
    c.rowRecords columns position rows = .error f ↔
      ∃ before row rest, rows = before ++ row :: rest ∧
        (∃ records, c.rowRecords columns position before = .ok records) ∧
        c.rowRecord columns (position + before.length) row = .error f := by
  constructor
  · intro h
    induction rows generalizing position with
    | nil => cases h
    | cons first rows ih =>
      rw [rowRecords] at h
      cases hr : c.rowRecord columns position first with
      | error f' =>
        rw [hr] at h
        -- The first row is the one that fails, with nothing before it.
        obtain rfl := Except.error.inj h
        exact ⟨[], first, rows, rfl, ⟨[], rfl⟩, hr⟩
      | ok record =>
        rw [hr] at h
        obtain ⟨before, row, rest, rfl, ⟨records, hbefore⟩, hrow⟩ := ih (Outcome.error_of_map h)
        have hposition : position + 1 + before.length = position + (first :: before).length := by
          rw [List.length_cons]
          omega
        refine ⟨first :: before, row, rest, rfl, ⟨record :: records, ?_⟩, hposition ▸ hrow⟩
        rw [rowRecords, hr, hbefore]
        rfl
  · -- What comes after the row is not looked at.
    rintro ⟨before, row, rest, rfl, ⟨records, hbefore⟩, hrow⟩
    rw [rowRecords_append, hbefore, rowRecords, hrow]
    rfl

/-! ### Tables -/

/-- Whether columns are missing does not depend on the rows: either all tables with these columns
    come to what their rows come to, or none does. -/
theorem result_eq_rowRecords_or (c : Classifier) (columns : List String) :
    (∀ rows, (c.classifyTable ⟨columns, rows⟩).result = c.rowRecords columns 0 rows) ∨
      ∃ names, ∀ rows, (c.classifyTable ⟨columns, rows⟩).result = .error (.missingColumns names) := by
  by_cases hmissing : (WayTable.mk columns []).missingColumns = []
  · exact .inl fun rows => result_classifyTable hmissing
  · refine .inr ⟨(WayTable.mk columns []).missingColumns, fun rows => ?_⟩
    exact result_classifyTable_of_missing hmissing

/-- A table comes to what its two parts come to, one after the other. -/
theorem result_append (c : Classifier) (columns : List String) (rows rows' : List (List Json)) :
    (c.classifyTable ⟨columns, rows ++ rows'⟩).result =
      match (c.classifyTable ⟨columns, rows⟩).result with
      | .error f => .error f
      | .ok records =>
        ((c.classifyTable ⟨columns, rows'⟩).result.mapError (TableFault.shift rows.length)).map
          (records ++ ·) := by
  rcases c.result_eq_rowRecords_or columns with hresult | ⟨names, hresult⟩
  · rw [hresult, hresult, hresult, rowRecords_append, rowRecords_add]
  · rw [hresult, hresult]

/-- Every record is the one that its row has in a table of its own. -/
theorem record_of_classifyTable {rows : List (List Json)} {records : List WayRecord}
    (h : (c.classifyTable ⟨columns, rows⟩).result = .ok records) {i : Nat} {row : List Json}
    (hi : rows[i]? = some row) :
    ∃ record, records[i]? = some record ∧
      (c.classifyTable ⟨columns, [row]⟩).result = .ok [record] := by
  obtain ⟨record, hrecord, hplace⟩ := rowRecords_getElem? (rowRecords_of_classifyTable h) hi
  obtain ⟨t, nodes, pair, hload, hv, rfl⟩ := rowRecord_eq_ok hrecord
  refine ⟨_, hplace, ?_⟩
  rcases c.result_eq_rowRecords_or columns with hresult | ⟨names, hresult⟩
  · rw [hresult, rowRecords, rowRecord_of_loaded hload, hv]
    rfl
  · rw [hresult] at h
    cases h

/-- The records have the ways of the rows. -/
theorem ways_of_classifyTable {rows : List (List Json)} {records : List WayRecord}
    (h : (c.classifyTable ⟨columns, rows⟩).result = .ok records) :
    records.map WayRecord.way = rows.map fun row => cell columns row "way_id" := by
  have hways : List.Forall₂ (· = ·) (records.map WayRecord.way)
      (rows.map fun row => cell columns row "way_id") := by
    rw [List.forall₂_map_left_iff, List.forall₂_map_right_iff]
    exact (forall₂_rowRecords (rowRecords_of_classifyTable h)).flip
  rwa [List.forall₂_eq_eq_eq] at hways

/-- The line of a fault is that of the first row whose cells cannot be used, and so is the way. -/
theorem result_eq_badRow_iff {rows : List (List Json)} {line : Nat} {way : String}
    {cause : CellFault} :
    (c.classifyTable ⟨columns, rows⟩).result = .error (.badRow line way cause) ↔
      ∃ before row rest, rows = before ++ row :: rest ∧ line = before.length + 1 ∧
        way = (cell columns row "way_id").label ∧
        (∃ records, (c.classifyTable ⟨columns, before⟩).result = .ok records) ∧
        (c.classifyTable ⟨columns, [row]⟩).result = .error (.badRow 1 way cause) := by
  rcases c.result_eq_rowRecords_or columns with hresult | ⟨names, hresult⟩
  · rw [hresult, rowRecords_eq_error_iff]
    refine exists_congr fun before => exists_congr fun row => exists_congr fun rest => ?_
    rw [hresult, hresult, rowRecords_singleton_eq_error_iff, rowRecord_eq_badRow_iff,
      rowRecord_eq_badRow_iff, Nat.zero_add]
    constructor
    · rintro ⟨hrows, hbefore, hload, hline, hway⟩
      exact ⟨hrows, hline, hway, hbefore, hload, rfl, hway⟩
    · rintro ⟨hrows, hline, hway, hbefore, hload, -, -⟩
      exact ⟨hrows, hbefore, hload, hline, hway⟩
  · simp [hresult]

/-! ### Tables of classified ways -/

section

variable {rule : ColumnRule} {rows rows' : List (List Json)} {records records' : List WayRecord}
  {f : TableFault}

/-- The columns of what comes out make no difference to what goes wrong. -/
theorem frame_eq_error_iff {table : WayTable} :
    (c.classifyFrame rule table).result = .error f ↔ (c.classifyTable table).result = .error f :=
  Outcome.error_map_iff

theorem exists_frame_iff {table : WayTable} :
    (∃ records, (c.classifyFrame rule table).result = .ok records) ↔
      ∃ records, (c.classifyTable table).result = .ok records :=
  Outcome.exists_ok_map_iff

/-- What comes out is what the rows come to, with the ways that come out of their column. -/
theorem frame_eq_ok (hrule : rule.Lawful)
    (h : (c.classifyFrame rule ⟨columns, rows⟩).result = .ok records) :
    ∃ raw, (c.classifyTable ⟨columns, rows⟩).result = .ok raw ∧
      records.map (fun r => (r.access, r.directions)) =
        raw.map (fun r => (r.access, r.directions)) ∧
      records.map WayRecord.way = rule (rows.map fun row => cell columns row "way_id") ∧
      (¬ Json.Mixed (rows.map fun row => cell columns row "way_id") → records = raw) := by
  obtain ⟨raw, hraw, rfl⟩ := Outcome.ok_of_map h
  have hways := ways_of_classifyTable hraw
  refine ⟨raw, hraw, hrule.map_outcome_assemble raw, ?_, fun hmixed => ?_⟩
  · rw [hrule.map_way_assemble, hways]
  · rw [← hways] at hmixed
    exact hrule.assemble_of_not_mixed hmixed

/-- A way alone comes out as it is. -/
theorem frame_singleton (hrule : rule.Lawful) {row : List Json} {record : WayRecord}
    (h : (c.classifyTable ⟨columns, [row]⟩).result = .ok [record]) :
    (c.classifyFrame rule ⟨columns, [row]⟩).result = .ok [record] := by
  have halone : ¬ Json.Mixed ([record].map WayRecord.way) := Json.not_mixed_singleton record.way
  rw [classifyFrame, Outcome.result_map, h]
  exact congrArg Except.ok (hrule.assemble_of_not_mixed halone)

/-- Of each row comes out, but for the way, what comes out of a table of its own. -/
theorem record_of_frame (hrule : rule.Lawful)
    (h : (c.classifyFrame rule ⟨columns, rows⟩).result = .ok records) {i : Nat} {row : List Json}
    (hi : rows[i]? = some row) :
    ∃ record alone, records[i]? = some record ∧
      (c.classifyFrame rule ⟨columns, [row]⟩).result = .ok [alone] ∧
      record.access = alone.access ∧ record.directions = alone.directions := by
  obtain ⟨raw, hraw, houtcomes, -, -⟩ := frame_eq_ok hrule h
  obtain ⟨alone, halone, hsingle⟩ := record_of_classifyTable hraw hi
  have hat : (records.map fun r => (r.access, r.directions))[i]? =
      some (alone.access, alone.directions) := by
    rw [houtcomes, List.getElem?_map, halone]
    rfl
  rw [List.getElem?_map, Option.map_eq_some_iff] at hat
  obtain ⟨record, hrecord, hsame⟩ := hat
  obtain ⟨haccess, hdirections⟩ := Prod.mk.inj hsame
  exact ⟨record, alone, hrecord, frame_singleton hrule hsingle, haccess, hdirections⟩

/-- One record comes out for each row. -/
theorem length_of_frame (hrule : rule.Lawful)
    (h : (c.classifyFrame rule ⟨columns, rows⟩).result = .ok records) :
    records.length = rows.length := by
  obtain ⟨raw, hraw, houtcomes, -, -⟩ := frame_eq_ok hrule h
  rw [← List.length_map (fun r : WayRecord => (r.access, r.directions)), houtcomes, List.length_map,
    length_of_rowRecords (rowRecords_of_classifyTable hraw)]

/-- Two tables that are classified are classified as one. -/
theorem frame_append (hrule : rule.Lawful)
    (h : (c.classifyFrame rule ⟨columns, rows⟩).result = .ok records)
    (h' : (c.classifyFrame rule ⟨columns, rows'⟩).result = .ok records') :
    ∃ whole, (c.classifyFrame rule ⟨columns, rows ++ rows'⟩).result = .ok whole ∧
      whole.map (fun r => (r.access, r.directions)) =
        (records ++ records').map (fun r => (r.access, r.directions)) ∧
      whole.map WayRecord.way = rule ((rows ++ rows').map fun row => cell columns row "way_id") ∧
      (¬ Json.Mixed ((rows ++ rows').map fun row => cell columns row "way_id") →
        whole = records ++ records') := by
  obtain ⟨raw, hraw, houtcomes, -, hkept⟩ := frame_eq_ok hrule h
  obtain ⟨raw', hraw', houtcomes', -, hkept'⟩ := frame_eq_ok hrule h'
  have hboth : (c.classifyTable ⟨columns, rows ++ rows'⟩).result = .ok (raw ++ raw') := by
    rw [c.result_append, hraw, hraw']
    rfl
  have hframe : (c.classifyFrame rule ⟨columns, rows ++ rows'⟩).result =
      .ok (rule.assemble (raw ++ raw')) := by
    rw [classifyFrame, Outcome.result_map, hboth]
    rfl
  obtain ⟨raw'', hraw'', hwhole, hways, hkept''⟩ := frame_eq_ok hrule hframe
  obtain rfl := Except.ok.inj (hboth.symm.trans hraw'')
  refine ⟨_, hframe, ?_, hways, fun hmixed => ?_⟩
  · rw [hwhole, List.map_append, List.map_append, houtcomes, houtcomes']
  · rw [List.map_append] at hmixed
    have hpart := fun h => hmixed (Json.mixed_mono h fun _ hv => List.mem_append_left _ hv)
    have hpart' := fun h => hmixed (Json.mixed_mono h fun _ hv => List.mem_append_right _ hv)
    rw [hkept'' (by rwa [List.map_append]), hkept hpart, hkept' hpart']

end

end Classifier

/-! ### The whole -/

/-- **Batches compose.**  If a table fails, it fails in the same way whatever rows come after it.  If
    it does not, what comes after it comes to what it comes to as a table of its own, but for its
    lines, which follow on, and for the identifiers of ways, which make one column.  So a table that is
    classified has one record for each row, in order, with what the row comes to in a table of its own,
    and with the way as given unless the ways of the table have no type in common; and a table that
    fails at a row names the first row whose cells cannot be used, with its line and its way. -/
theorem batches_compose (rule : ColumnRule) (hrule : rule.Lawful) (c : Classifier)
    (columns : List String) :
    let classified (rows : List (List Json)) := (c.classifyFrame rule ⟨columns, rows⟩).result
    let ways (rows : List (List Json)) := rows.map fun row => WayTable.cell columns row "way_id"
    (∀ rows rows' f, classified rows = .error f → classified (rows ++ rows') = .error f) ∧
    (∀ rows rows' records, classified rows = .ok records →
      (∀ line way cause, classified rows' = .error (.badRow line way cause) →
        classified (rows ++ rows') = .error (.badRow (line + rows.length) way cause)) ∧
      (∀ f, (∀ line way cause, f ≠ .badRow line way cause) → classified rows' = .error f →
        classified (rows ++ rows') = .error f) ∧
      (∀ records', classified rows' = .ok records' →
        ∃ whole, classified (rows ++ rows') = .ok whole ∧
          whole.map (fun r => (r.access, r.directions)) =
            (records ++ records').map (fun r => (r.access, r.directions)) ∧
          whole.map WayRecord.way = rule (ways (rows ++ rows')) ∧
          (¬ Json.Mixed (ways (rows ++ rows')) → whole = records ++ records'))) ∧
    (∀ rows records, classified rows = .ok records →
      records.length = rows.length ∧ records.map WayRecord.way = rule (ways rows) ∧
      (¬ Json.Mixed (ways rows) → records.map WayRecord.way = ways rows) ∧
      ∀ (i : Nat) (row : List Json), rows[i]? = some row →
        ∃ record alone, records[i]? = some record ∧ classified [row] = .ok [alone] ∧
          record.access = alone.access ∧ record.directions = alone.directions) ∧
    (∀ rows line way cause, classified rows = .error (.badRow line way cause) ↔
      ∃ before row rest, rows = before ++ row :: rest ∧ line = before.length + 1 ∧
        way = (WayTable.cell columns row "way_id").label ∧
        (∃ records, classified before = .ok records) ∧
        classified [row] = .error (.badRow 1 way cause)) ∧
    ∀ line way cause, (TableFault.badRow line way cause).kind = .value ∧
      (TableFault.badRow line way cause).heading = s!"Linha {line} (way {way}) inválida: " := by
  intro classified ways
  refine ⟨fun rows rows' f h => ?_, fun rows rows' records h => ⟨?_, ?_, ?_⟩, ?_, ?_, ?_⟩
  · rw [Classifier.frame_eq_error_iff] at h ⊢
    rw [c.result_append, h]
  · intro line way cause h'
    obtain ⟨raw, hraw, -⟩ := Classifier.frame_eq_ok hrule h
    rw [Classifier.frame_eq_error_iff] at h' ⊢
    rw [c.result_append, hraw, h']
    rfl
  · intro f hf h'
    obtain ⟨raw, hraw, -⟩ := Classifier.frame_eq_ok hrule h
    rw [Classifier.frame_eq_error_iff] at h' ⊢
    rw [c.result_append, hraw, h']
    show Except.error (f.shift rows.length) = _
    rw [TableFault.shift_of_not_badRow hf]
  · intro records' h'
    exact Classifier.frame_append hrule h h'
  · intro rows records h
    obtain ⟨-, -, -, hways, -⟩ := Classifier.frame_eq_ok hrule h
    refine ⟨Classifier.length_of_frame hrule h, hways, fun hmixed => ?_, fun i row hi => ?_⟩
    · rw [hways]
      exact hrule.kept _ hmixed
    · exact Classifier.record_of_frame hrule h hi
  · intro rows line way cause
    rw [Classifier.frame_eq_error_iff, Classifier.result_eq_badRow_iff]
    refine exists_congr fun before => exists_congr fun row => exists_congr fun rest => ?_
    rw [Classifier.exists_frame_iff, Classifier.frame_eq_error_iff]
  · exact fun line way cause => ⟨rfl, rfl⟩

/-- A ferry, then a path and a row with a number for tags; and a ferry, then a gate whose node is no
    object. -/
theorem batches_compose_after_ferry :
    let c : Classifier := {}
    let columns := ["way_id", "tags", "node_tags"]
    let classified (rows : List (List Json)) :=
      (c.classifyFrame ColumnRule.inferred ⟨columns, rows⟩).result
    let ferry := [Json.int 1, .object [("route", .text "ferry")], .null]
    let path := [Json.int 2, .object [("highway", .text "path")], .null]
    let broken := [Json.int 3, .int 5, .null]
    let gate := [Json.int 4, .object [("highway", .text "path"), ("barrier_edge", .text "yes")],
      .array [.int 5]]
    ColumnRule.inferred.Lawful ∧ classified [ferry] = .ok [⟨.int 1, .ferry, .both⟩] ∧
      classified [path] = .ok [⟨.int 2, .routable, .both⟩] ∧
      classified [ferry, path] = .ok [⟨.int 1, .ferry, .both⟩, ⟨.int 2, .routable, .both⟩] ∧
      classified [path, broken] = .error (.badRow 2 "3" .notText) ∧
      classified [ferry, path, broken] = .error (.badRow 3 "3" .notText) ∧
      classified [gate] = .error (.unhandled .tagsNotObject) ∧
      classified [ferry, gate, broken] = .error (.unhandled .tagsNotObject) := by
  intro c columns classified ferry path broken gate
  obtain ⟨hfails, hcompose, -, -, -⟩ :=
    batches_compose ColumnRule.inferred ColumnRule.lawful_inferred c columns
  have hferry : classified [ferry] = .ok [⟨.int 1, .ferry, .both⟩] := rfl
  have hpath : classified [path] = .ok [⟨.int 2, .routable, .both⟩] := rfl
  have hbroken : classified [path, broken] = .error (.badRow 2 "3" .notText) := rfl
  have hgate : classified [gate] = .error (.unhandled .tagsNotObject) := rfl
  -- The line of the broken row moves on by one for the ferry before it.
  obtain ⟨-, -, hboth⟩ := hcompose [ferry] [path] _ hferry
  obtain ⟨hshift, -, -⟩ := hcompose [ferry] [path, broken] _ hferry
  obtain ⟨-, hother, -⟩ := hcompose [ferry] [gate] _ hferry
  have hferryGate := hother (.unhandled .tagsNotObject) nofun hgate
  obtain ⟨whole, hwhole, -, -, hkept⟩ := hboth _ hpath
  have hints : ¬ Json.Mixed [.int 1, .int 2] := by
    simp [Json.Mixed]
  obtain rfl := hkept hints
  exact ⟨ColumnRule.lawful_inferred, hferry, hpath, hwhole, hbroken, hshift _ _ _ hbroken, hgate,
    hfails [ferry, gate] [broken] _ hferryGate⟩

/-- **Batches share a column.**  What comes out of two tables one after the other is not always what
    comes out of each of them: an integer changes beside a real number. -/
theorem batches_share_column :
    let c : Classifier := {}
    let columns := ["way_id", "tags"]
    let classified (rows : List (List Json)) :=
      (c.classifyFrame ColumnRule.inferred ⟨columns, rows⟩).result
    let path := Json.object [("highway", .text "path")]
    -- `9007199254740992` and `1.5`
    let nearest := Binary64.finite false 4503599627370496 1
    let other := Binary64.finite false 6755399441055744 (-52)
    let first : WayRecord := ⟨.int 9007199254740993, .routable, .both⟩
    let second : WayRecord := ⟨.real other, .routable, .both⟩
    ColumnRule.inferred.Lawful ∧ classified [[.int 9007199254740993, path]] = .ok [first] ∧
      classified [[.real other, path]] = .ok [second] ∧
      classified [[.int 9007199254740993, path], [.real other, path]] =
        .ok [{ first with way := .real nearest }, second] ∧
      classified [[.int 9007199254740993, path], [.real other, path]] ≠
        .ok ([first] ++ [second]) := by
  intro c columns classified path nearest other first second
  have hboth : classified [[.int 9007199254740993, path], [.real other, path]] =
      .ok [{ first with way := .real nearest }, second] := rfl
  refine ⟨ColumnRule.lawful_inferred, rfl, rfl, hboth, ?_⟩
  intro hsame
  rw [hboth] at hsame
  have hways := congrArg WayRecord.way (List.cons.inj (Except.ok.inj hsame)).1
  cases hways

end RoadAccess
