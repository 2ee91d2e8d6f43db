import Mathlib.Data.List.Forall2
import RoadAccess.Proofs.Handling
import RoadAccess.Proofs.Texts
import RoadAccess.Table.Classification

namespace RoadAccess

/-!
# What the rows of a table come to

A table is classified with one table of flags for all its rows, but every row has an edge of its
own, and no row leaves a flag where a later one looks for it.  So what a row comes to can be said
from the row alone.

* `WayTable.Holds` — a cell holds a value, as it is or as a JSON text; `WayTable.Vacant` — it holds
  nothing;
* `Classifier.assess` — what the tags of a way and of its nodes come to;
* `Classifier.rowRecord` — what a row comes to; `Classifier.rowRecords` — the same for rows one
  after the other; `Classifier.forall₂_rowRecords` — a record for each row;
* `FlagTable.FreshFrom` — the invariant of a run over rows: no flag of a position still to come is
  set;
* `Classifier.result_classifyRow`, `Classifier.result_classifyRows` — classifying rows is reading
  them one by one.
-/

/-! ### Cells -/

namespace WayTable

/-- A cell holds a value: it is the value or a JSON text of it. -/
inductive Holds : (cell v : Json) → Prop where
  | value (v : Json) : Holds v v
  | text {s : String} {v : Json} (h : Json.parse s = some v) : Holds (.text s) v

/-- A cell holds nothing. -/
inductive Vacant : Json → Prop where
  | null : Vacant .null
  | nan : Vacant (.real .nan)
  | blank {s : String} (h : Text.strip s = "") : Vacant (.text s)

end WayTable

open WayTable

theorem loadCell_of_vacant {cell : Json} (h : Vacant cell) (other : Json) :
    loadCell cell other = .ok other := by
  cases h with
  | null => rfl
  | nan => rfl
  | blank h => simp [loadCell, h]

/-- A JSON text is no blank text, so it is read. -/
theorem loadCell_of_parse {s : String} {v : Json} (h : Json.parse s = some v) (other : Json) :
    loadCell (.text s) other = .ok v := by
  have hne : (Text.strip s).isEmpty = false := by
    rw [← Bool.not_eq_true, String.isEmpty_iff]
    intro hblank
    rw [Json.parse_eq_none_of_blank hblank] at h
    cases h
  simp [loadCell, hne, h]

/-- An object is loaded from either form. -/
theorem loadCell_object {cell : Json} {fields : List (String × Json)}
    (h : Holds cell (.object fields)) (other : Json) :
    loadCell cell other = .ok (.object fields) := by
  cases h with
  | value => rfl
  | text h => exact loadCell_of_parse h other

/-- A list is loaded from either form. -/
theorem loadCell_array {cell : Json} {items : List Json} (h : Holds cell (.array items))
    (other : Json) : loadCell cell other = .ok (.array items) := by
  cases h with
  | value => rfl
  | text h => exact loadCell_of_parse h other

/-- A row whose cells hold an object and a list is read as the two; a list without items may also
    be left out. -/
theorem loadRow_of_holds {columns : List String} {row : List Json}
    {fields : List (String × Json)} {items : List Json}
    (hway : Holds (cell columns row "tags") (.object fields))
    (hnodes : Holds (cell columns row "node_tags") (.array items) ∨
      items = [] ∧ Vacant (cell columns row "node_tags")) :
    loadRow columns row = .ok (Tags.ofFields fields, .array items) := by
  have hload : loadCell (cell columns row "node_tags") (.array []) = .ok (.array items) := by
    rcases hnodes with hholds | ⟨rfl, hvacant⟩
    · exact loadCell_array hholds _
    · exact loadCell_of_vacant hvacant _
  simp only [loadRow, loadCell_object hway, Tags.ofJson?_object, hload, bind, Except.bind, pure,
    Except.pure]

/-! ### A single way -/

namespace Classifier

/-- The access flags of an edge for which nothing but the roundabout flag was written: they are
    not set, unless the two keys are one. -/
def unsettled (c : Classifier) (t : Tags) : Directions :=
  ⟨decide (c.accessKey = c.roundaboutKey) && t.isRoundabout, false⟩

/-- What the tags of a way and of its nodes come to, on an edge about which nothing else is
    known. -/
def assess (c : Classifier) (t : Tags) (nodes : Json) : Except Fault (Access × Directions) :=
  (c.verdict t.isRoundabout t nodes).map fun pair => (c.access t, pair.getD (c.unsettled t))

theorem unsettled_of_ne {c : Classifier} (h : c.roundaboutKey ≠ c.accessKey) (t : Tags) :
    c.unsettled t = .closed := by
  simp [unsettled, Ne.symm h, Directions.closed]

/-- A way on an edge without access flags comes to what its tags say. -/
theorem result_classifyWay {s : FlagTable} {e : Identifier} {c : Classifier}
    (he : e.hashable = true) (hflags : c.marked s e = .closed) (t : Tags) (nodes : Json) :
    (c.classifyWay s e t nodes).result = c.assess t nodes := by
  -- The store from which handling starts differs from `s` in the roundabout flag.
  let s' : FlagTable := s.set (c.roundaboutSlot e) t.isRoundabout
  have hfault : FlagStore.fault? s' e = none := if_pos he
  have hround : FlagStore.get s' (c.roundaboutSlot e) = t.isRoundabout := by
    show s'.get _ = _
    rw [FlagTable.get_set, if_pos rfl]
  have hmarked : c.marked s' e = c.unsettled t := by
    obtain ⟨hforward, hbackward⟩ := Directions.mk.inj hflags
    show Directions.mk (s'.get _) (s'.get _) = _
    change s.get _ = false at hforward hbackward
    rw [FlagTable.get_set, FlagTable.get_set, hforward, hbackward]
    simp [unsettled, accessSlot, roundaboutSlot]
  have hresult := result_handleTags hfault c t nodes
  rw [hround] at hresult
  show ((c.handleTags s' e t nodes).andThen _).result = _
  cases hv : c.verdict t.isRoundabout t nodes with
  | error f =>
    rw [hv] at hresult
    rw [Outcome.andThen_of_error hresult, assess, hv]
    rfl
  | ok pair =>
    rw [hv] at hresult
    have hafter := marked_handleTags hfault (hround ▸ hv)
    rw [hmarked] at hafter
    rw [Outcome.andThen_of_ok hresult, assess, hv]
    show Except.ok (c.access t, c.marked (c.handleTags s' e t nodes).state e) = _
    rw [hafter]
    rfl

/-- A way touches no flag of another edge. -/
theorem get_classifyWay_of_edge_ne (c : Classifier) (s : FlagTable) {e : Identifier} (t : Tags)
    (nodes : Json) {slot : Slot Identifier} (h : slot.edge ≠ e) :
    (c.classifyWay s e t nodes).state.get slot = s.get slot := by
  let s' : FlagTable := s.set (c.roundaboutSlot e) t.isRoundabout
  have hset : s'.get slot = s.get slot := LawfulFlagStore.get_set_of_edge_ne s _ h
  have hstate : (c.classifyWay s e t nodes).state = (c.handleTags s' e t nodes).state := by
    show ((c.handleTags s' e t nodes).andThen _).state = _
    unfold Outcome.andThen
    split <;> rfl
  rw [hstate, ← hset]
  rcases state_handleTags_eq_or c s' e t nodes with hs | ⟨d, hs⟩
  · rw [hs]
  · rw [hs]
    exact get_mark_of_edge_ne c s' d h

/-! ### Rows -/

/-- What the row at a position comes to. -/
def rowRecord (c : Classifier) (columns : List String) (position : Nat) (row : List Json) :
    Except TableFault WayRecord :=
  let way := cell columns row "way_id"
  match loadRow columns row with
  | .error cause => .error (.badRow (position + 1) way.label cause)
  | .ok (t, nodes) => ((c.assess t nodes).mapError .unhandled).map fun (a, d) => ⟨way, a, d⟩

/-- What the rows from a position on come to, up to the first that cannot be classified. -/
def rowRecords (c : Classifier) (columns : List String) (position : Nat) :
    List (List Json) → Except TableFault (List WayRecord)
  | [] => .ok []
  | row :: rows =>
    match c.rowRecord columns position row with
    | .error f => .error f
    | .ok record => (c.rowRecords columns (position + 1) rows).map (record :: ·)

/-- A row whose cells cannot be used names its line and its way. -/
theorem rowRecord_of_unloaded {columns : List String} {row : List Json} {cause : CellFault}
    (h : loadRow columns row = .error cause) (c : Classifier) (position : Nat) :
    c.rowRecord columns position row =
      .error (.badRow (position + 1) (cell columns row "way_id").label cause) := by
  rw [rowRecord, h]

/-- Any other row comes to the verdict on its tags. -/
theorem rowRecord_of_loaded {columns : List String} {row : List Json} {t : Tags} {nodes : Json}
    (h : loadRow columns row = .ok (t, nodes)) (c : Classifier) (position : Nat) :
    c.rowRecord columns position row =
      match c.verdict t.isRoundabout t nodes with
      | .error f => .error (.unhandled f)
      | .ok pair => .ok ⟨cell columns row "way_id", c.access t, pair.getD (c.unsettled t)⟩ := by
  rw [rowRecord, h]
  show Except.map _ ((c.assess t nodes).mapError TableFault.unhandled) = _
  rw [assess]
  cases c.verdict t.isRoundabout t nodes <;> rfl

/-- A row that has a record holds tags that can be read, and there is a verdict on them. -/
theorem rowRecord_eq_ok {c : Classifier} {columns : List String} {position : Nat} {row : List Json}
    {record : WayRecord} (h : c.rowRecord columns position row = .ok record) :
    ∃ t nodes pair, loadRow columns row = .ok (t, nodes) ∧
      c.verdict t.isRoundabout t nodes = .ok pair ∧
      record = ⟨cell columns row "way_id", c.access t, pair.getD (c.unsettled t)⟩ := by
  cases hload : loadRow columns row with
  | error cause =>
    rw [rowRecord_of_unloaded hload] at h
    cases h
  | ok loaded =>
    obtain ⟨t, nodes⟩ := loaded
    rw [rowRecord_of_loaded hload] at h
    cases hv : c.verdict t.isRoundabout t nodes with
    | error f =>
      rw [hv] at h
      cases h
    | ok pair =>
      rw [hv] at h
      exact ⟨t, nodes, pair, rfl, hv, (Except.ok.inj h).symm⟩

/-- A row that has none either has cells that cannot be used or no verdict on its tags. -/
theorem rowRecord_eq_error_iff {c : Classifier} {columns : List String} {position : Nat}
    {row : List Json} {f : TableFault} :
    c.rowRecord columns position row = .error f ↔
      (∃ cause, loadRow columns row = .error cause ∧
        f = .badRow (position + 1) (cell columns row "way_id").label cause) ∨
      ∃ t nodes fault, loadRow columns row = .ok (t, nodes) ∧
        c.verdict t.isRoundabout t nodes = .error fault ∧ f = .unhandled fault := by
  constructor
  · intro h
    cases hload : loadRow columns row with
    | error cause =>
      rw [rowRecord_of_unloaded hload] at h
      exact .inl ⟨cause, rfl, (Except.error.inj h).symm⟩
    | ok loaded =>
      obtain ⟨t, nodes⟩ := loaded
      rw [rowRecord_of_loaded hload] at h
      cases hv : c.verdict t.isRoundabout t nodes with
      | error fault =>
        rw [hv] at h
        exact .inr ⟨t, nodes, fault, rfl, hv, (Except.error.inj h).symm⟩
      | ok pair =>
        rw [hv] at h
        cases h
  · rintro (⟨cause, hload, rfl⟩ | ⟨t, nodes, fault, hload, hv, rfl⟩)
    · exact rowRecord_of_unloaded hload c position
    · rw [rowRecord_of_loaded hload, hv]

theorem rowRecord_eq_badRow_iff {c : Classifier} {columns : List String} {position line : Nat}
    {row : List Json} {way : String} {cause : CellFault} :
    c.rowRecord columns position row = .error (.badRow line way cause) ↔
      loadRow columns row = .error cause ∧ line = position + 1 ∧
        way = (cell columns row "way_id").label := by
  rw [rowRecord_eq_error_iff]
  constructor
  · rintro (⟨cause', hload, hf⟩ | ⟨t, nodes, fault, -, -, hf⟩)
    · obtain ⟨rfl, rfl, rfl⟩ := TableFault.badRow.inj hf
      exact ⟨hload, rfl, rfl⟩
    · cases hf
  · rintro ⟨hload, rfl, rfl⟩
    exact .inl ⟨cause, hload, rfl⟩

/-- The rows have a record each, in their order, under the identifiers of their ways. -/
theorem forall₂_rowRecords {c : Classifier} {columns : List String} {position : Nat}
    {rows : List (List Json)} {records : List WayRecord}
    (h : c.rowRecords columns position rows = .ok records) :
    List.Forall₂ (fun row record => record.way = cell columns row "way_id") rows records := by
  induction rows generalizing position records with
  | nil =>
    obtain rfl := Except.ok.inj h
    exact .nil
  | cons row rows ih =>
    rw [rowRecords] at h
    cases hr : c.rowRecord columns position row with
    | error f =>
      rw [hr] at h
      cases h
    | ok record =>
      rw [hr] at h
      obtain ⟨later, hlater, rfl⟩ := Outcome.ok_of_map h
      obtain ⟨t, nodes, pair, -, -, rfl⟩ := rowRecord_eq_ok hr
      exact .cons rfl (ih hlater)

theorem length_of_rowRecords {c : Classifier} {columns : List String} {position : Nat}
    {rows : List (List Json)} {records : List WayRecord}
    (h : c.rowRecords columns position rows = .ok records) : records.length = rows.length :=
  (forall₂_rowRecords h).length_eq.symm

/-- Every row has its record, at its place. -/
theorem rowRecords_getElem? {c : Classifier} {columns : List String} {position i : Nat}
    {rows : List (List Json)} {row : List Json} {records : List WayRecord}
    (h : c.rowRecords columns position rows = .ok records) (hi : rows[i]? = some row) :
    ∃ record, c.rowRecord columns (position + i) row = .ok record ∧
      records[i]? = some record := by
  induction rows generalizing position i records with
  | nil => simp at hi
  | cons first rows ih =>
    rw [rowRecords] at h
    cases hr : c.rowRecord columns position first with
    | error f =>
      rw [hr] at h
      cases h
    | ok record =>
      rw [hr] at h
      obtain ⟨later, hlater, rfl⟩ := Outcome.ok_of_map h
      cases i with
      | zero =>
        obtain rfl := Option.some.inj hi
        exact ⟨record, hr, rfl⟩
      | succ i =>
        obtain ⟨record', hr', hi'⟩ := ih hlater hi
        have hposition : position + 1 + i = position + (i + 1) := by omega
        exact ⟨record', hposition ▸ hr', hi'⟩

end Classifier

/-! ### A run over rows -/

/-- No flag of a position from this one on is set. -/
def FlagTable.FreshFrom (s : FlagTable) (position : Nat) : Prop :=
  ∀ (slot : Slot Identifier) (n : Nat), slot.edge = .int n → position ≤ n → s.get slot = false

theorem FlagTable.freshFrom_empty : FlagTable.empty.FreshFrom 0 := fun _ _ _ _ => rfl

namespace Classifier

/-- A row on a fresh table comes to what it says. -/
theorem result_classifyRow {c : Classifier} {columns : List String} {s : FlagTable}
    {position : Nat} (h : s.FreshFrom position) (row : List Json) :
    (c.classifyRow columns s position row).result = c.rowRecord columns position row := by
  unfold classifyRow rowRecord
  cases WayTable.loadRow columns row with
  | error cause => rfl
  | ok loaded =>
    obtain ⟨t, nodes⟩ := loaded
    have hflags : c.marked s (Identifier.int position) = .closed := by
      have hget : ∀ reverse, s.get (c.accessSlot (.int position) reverse) = false :=
        fun reverse => h _ position rfl (Nat.le_refl _)
      show Directions.mk (s.get _) (s.get _) = _
      rw [hget, hget]
      rfl
    simp only [Outcome.result_map, Outcome.result_mapFault, result_classifyWay rfl hflags]

/-- A row leaves the flags of the positions after it as they are. -/
theorem freshFrom_classifyRow {c : Classifier} {columns : List String} {s : FlagTable}
    {position : Nat} (h : s.FreshFrom position) (row : List Json) :
    (c.classifyRow columns s position row).state.FreshFrom (position + 1) := by
  intro slot n hedge hn
  have hold : s.get slot = false := h slot n hedge (Nat.le_of_succ_le hn)
  unfold classifyRow
  cases WayTable.loadRow columns row with
  | error cause => exact hold
  | ok loaded =>
    -- A later position is another edge.
    have hne : slot.edge ≠ Identifier.int position := by
      rw [hedge]
      intro heq
      have := Identifier.int.inj heq
      omega
    exact (get_classifyWay_of_edge_ne c s _ _ hne).trans hold

/-- **Rows are independent.**  Rows that are classified one after the other with one table of flags
    come to what each of them says. -/
theorem result_classifyRows {c : Classifier} {columns : List String} {s : FlagTable}
    {position : Nat} (h : s.FreshFrom position) (rows : List (List Json)) :
    (c.classifyRows columns s position rows).result = c.rowRecords columns position rows := by
  induction rows generalizing s position with
  | nil => rfl
  | cons row rows ih =>
    -- Freshness is handed on from row to row, with the position.
    have hrow : (c.classifyRow columns s position row).result = _ := result_classifyRow h row
    have hfresh : (c.classifyRow columns s position row).state.FreshFrom _ :=
      freshFrom_classifyRow h row
    rw [classifyRows, rowRecords]
    cases hr : c.rowRecord columns position row with
    | error f =>
      rw [hr] at hrow
      rw [Outcome.andThen_of_error hrow]
    | ok record =>
      rw [hr] at hrow
      rw [Outcome.andThen_of_ok hrow]
      exact congrArg (Except.map (record :: ·)) (ih hfresh)

/-- A table with the required columns comes to what its rows come to. -/
theorem result_classifyTable {c : Classifier} {table : WayTable} (h : table.missingColumns = []) :
    (c.classifyTable table).result = c.rowRecords table.columns 0 table.rows := by
  rw [classifyTable, h]
  exact result_classifyRows FlagTable.freshFrom_empty table.rows

/-- Without the required columns no row is looked at. -/
theorem result_classifyTable_of_missing {c : Classifier} {table : WayTable}
    (h : table.missingColumns ≠ []) :
    (c.classifyTable table).result = .error (.missingColumns table.missingColumns) := by
  unfold classifyTable
  split
  · next hnone => exact absurd hnone h
  · rfl

/-- A table that is classified has the required columns. -/
theorem missingColumns_of_classifyTable {c : Classifier} {table : WayTable}
    {records : List WayRecord} (h : (c.classifyTable table).result = .ok records) :
    table.missingColumns = [] := by
  by_contra hmissing
  rw [result_classifyTable_of_missing hmissing] at h
  cases h

/-- The records of a table are those of its rows. -/
theorem rowRecords_of_classifyTable {c : Classifier} {table : WayTable}
    {records : List WayRecord} (h : (c.classifyTable table).result = .ok records) :
    c.rowRecords table.columns 0 table.rows = .ok records := by
  rwa [result_classifyTable (missingColumns_of_classifyTable h)] at h

end Classifier

end RoadAccess
