import RoadAccess.Command.Run
import RoadAccess.Proofs.Batches
import RoadAccess.Proofs.Csv

namespace RoadAccess

/-!
# What a run leaves behind

What a command prints and writes comes last: whatever goes wrong before that leaves no trace.  A text
that standard output does not take comes later still, and then what has been written stays.

* `Command.Result.leaves` — what stands on the disk after a run; `Command.Disk.write_eq_file_iff` — of
  the files only the one that is written is touched;
* `Command.printAll_cases` — printing stops at the first text that is not taken;
* `Command.classify_of_unclassified`, `Command.classify_of_unsaved`, `Command.classify_of_saved`,
  `Command.stats_of_unclassified`, `Command.stats_of_classified` — the commands up to their last step;
* `Command.LinesOf`, `Command.RecordsOf`, `Command.Completed` — a line for each row, with the identifier
  of the row, a text that holds the lines, and the output of a classification;
* `Command.run_all_or_nothing` — the whole; `Command.run_not_all_or_nothing` — where it cannot say more.
-/

/-! ### A record for each row -/

namespace WayTable

/-- Every row has a text for each column. -/
def Textual (table : WayTable) : Prop :=
  ∀ row ∈ table.rows, ∃ fields : List String,
    row = fields.map Json.text ∧ fields.length = table.columns.length

/-- A column that is there has a text in a row of texts. -/
theorem cell_of_fields {columns fields : List String} {name : String}
    (hname : name ∈ columns) (hlen : fields.length = columns.length) :
    ∃ text, cell columns (fields.map Json.text) name = .text text := by
  induction columns generalizing fields with
  | nil => cases hname
  | cons column columns ih =>
    cases fields with
    | nil => cases hlen
    | cons field fields =>
      rw [cell, List.map_cons, List.zip_cons_cons, Keyed.lookup_cons_ite]
      by_cases hc : name = column
      · rw [if_pos hc]
        exact ⟨field, rfl⟩
      · rw [if_neg hc]
        exact ih ((List.mem_cons.1 hname).resolve_left hc) (Nat.succ.inj hlen)

/-- A table whose rows have records has a column of identifiers. -/
theorem mem_columns_of_missingColumns {table : WayTable} (h : table.missingColumns = []) :
    "way_id" ∈ table.columns := by
  have hnone : "way_id" ∉ requiredColumns.filter (· ∉ table.columns) := by
    rw [← missingColumns, h]
    exact List.not_mem_nil
  simpa [requiredColumns] using hnone

/-- The identifiers in a table of texts are texts. -/
theorem Textual.cell_eq_text {table : WayTable} (h : table.Textual)
    (hcolumn : "way_id" ∈ table.columns) {row : List Json} (hrow : row ∈ table.rows) :
    ∃ id, cell table.columns row "way_id" = .text id := by
  obtain ⟨fields, rfl, hlen⟩ := h row hrow
  exact cell_of_fields hcolumn hlen

end WayTable

namespace Classifier

variable {c : Classifier} {table : WayTable} {records : List WayRecord}

/-- Identifiers that are texts come out as they are. -/
theorem classifyTable_of_textual {rule : ColumnRule} (hrule : rule.Lawful) (htexts : table.Textual)
    (h : (c.classifyFrame rule table).result = .ok records) :
    (c.classifyTable table).result = .ok records := by
  obtain ⟨raw, hraw, -, -, hkept⟩ := frame_eq_ok hrule h
  have hcolumn := WayTable.mem_columns_of_missingColumns (missingColumns_of_classifyTable hraw)
  have hunmixed : ¬ Json.Mixed (table.rows.map fun row => WayTable.cell table.columns row "way_id") := by
    apply Json.not_mixed_of_texts
    rw [List.forall_mem_map]
    exact fun row hrow => htexts.cell_eq_text hcolumn hrow
  rw [hkept hunmixed]
  exact hraw

end Classifier

namespace Command

/-- The fields of a classified way as they are written. -/
def recordFields (r : WayRecord) : List String :=
  [r.way.label, r.access.word, Json.boolText r.directions.forward,
    Json.boolText r.directions.backward]

theorem lines_recordTable (records : List WayRecord) :
    (recordTable records).lines = recordColumns :: records.map recordFields := by
  rw [recordTable, WayTable.lines, List.map_map]
  rfl

end Command

/-- Under identifiers that are texts, classified ways make a table of texts and truth values. -/
theorem Classifier.simple_recordTable {c : Classifier} {table : WayTable} {records : List WayRecord}
    (htexts : table.Textual) (h : (c.classifyTable table).result = .ok records) :
    (Command.recordTable records).Simple where
  columns := List.cons_ne_nil _ _
  complete row hrow := by
    obtain ⟨record, -, rfl⟩ := List.mem_map.1 hrow
    rfl
  cells row hrow cell hcell := by
    obtain ⟨record, hrecord, rfl⟩ := List.mem_map.1 hrow
    have hcolumn := WayTable.mem_columns_of_missingColumns (missingColumns_of_classifyTable h)
    have hway : record.way ∈ records.map WayRecord.way := List.mem_map_of_mem hrecord
    rw [ways_of_classifyTable h] at hway
    obtain ⟨row, hrow, hid⟩ := List.mem_map.1 hway
    obtain ⟨id, htext⟩ := htexts.cell_eq_text hcolumn hrow
    simp only [Command.recordRow, List.mem_cons, List.not_mem_nil, or_false] at hcell
    rcases hcell with rfl | rfl | rfl | rfl
    · exact .inl ⟨id, hid.symm.trans htext⟩
    · exact .inl ⟨_, rfl⟩
    · exact .inr ⟨_, rfl⟩
    · exact .inr ⟨_, rfl⟩

namespace Command

/-! ### The disk after a run -/

/-- What stands on the disk once a file is written; the directories on the way to it are made where
    nothing stands. -/
def Disk.write (disk : Disk) (path : Path) (content : Content) : Disk := fun p =>
  if p = path then .file content
  else if disk p = .missing ∧ p ∈ path.parent.ancestors then .directory
  else disk p

/-- What stands on the disk after a run. -/
def Result.leaves (r : Result) (disk : Disk) : Disk :=
  match r.written with
  | none => disk
  | some (path, content) => disk.write path content

theorem Disk.write_self (disk : Disk) (path : Path) (content : Content) :
    disk.write path content path = .file content := if_pos rfl

/-- Of the files only the one that is written is touched. -/
theorem Disk.write_eq_file_iff (disk : Disk) {path p : Path} (h : p ≠ path)
    (content other : Content) :
    disk.write path content p = .file other ↔ disk p = .file other := by
  rw [write, if_neg h]
  by_cases hmade : disk p = .missing ∧ p ∈ path.parent.ancestors
  · rw [if_pos hmade, hmade.1]
    constructor <;> nofun
  · rw [if_neg hmade]

theorem Result.leaves_of_written_none {r : Result} (h : r.written = none) (disk : Disk) :
    r.leaves disk = disk := by
  rw [leaves, h]

theorem Result.leaves_of_written {r : Result} {path : Path} {content : Content}
    (h : r.written = some (path, content)) (disk : Disk) :
    r.leaves disk = disk.write path content := by
  rw [leaves, h]

/-! ### Printing -/

section

variable {place : Place} {t : Traces} {text : String} {e : Raised}

theorem print_of_taken (h : place.refusal? t.printed text = none) :
    print place t text = .pure { t with printed := t.printed ++ text } () := by
  rw [print, h]

theorem print_of_refused (h : place.refusal? t.printed text = some e) :
    print place t text = .fail t (.refused e) := by
  rw [print, h]

/-- All texts are printed, or those before the first one that standard output does not take. -/
theorem printAll_cases (place : Place) (t : Traces) (texts : List String) :
    (printAll place t texts).state.written = t.written ∧
      (((printAll place t texts).result = .ok () ∧
          (printAll place t texts).state.printed = t.printed ++ String.join texts) ∨
        ∃ before text after e, texts = before ++ text :: after ∧
          (printAll place t texts).state.printed = t.printed ++ String.join before ∧
          place.refusal? (printAll place t texts).state.printed text = some e ∧
          (printAll place t texts).result = .error (.refused e)) := by
  induction texts generalizing t with
  | nil => exact ⟨rfl, .inl ⟨rfl, by simp [printAll, Outcome.pure]⟩⟩
  | cons text texts ih =>
    cases h : place.refusal? t.printed text with
    | some e =>
      rw [printAll, print_of_refused h]
      exact ⟨rfl, .inr ⟨[], text, texts, e, rfl, by simp [Outcome.andThen, Outcome.fail], h, rfl⟩⟩
    | none =>
      -- The texts that follow are printed behind this one.
      obtain ⟨hwritten, hrest⟩ := ih { t with printed := t.printed ++ text }
      rw [printAll, print_of_taken h, Outcome.andThen_of_ok rfl]
      refine ⟨hwritten, ?_⟩
      rcases hrest with ⟨hresult, hprinted⟩ | ⟨before, text', after, e, rfl, hprinted, he, hresult⟩
      · refine .inl ⟨hresult, hprinted.trans ?_⟩
        rw [String.join_cons, String.append_assoc]
      · refine .inr ⟨text :: before, text', after, e, rfl, hprinted.trans ?_, he, hresult⟩
        rw [String.join_cons, String.append_assoc]

end

/-! ### The steps of the commands -/

variable {place : Place} {c : Classifier} {input output : Path} {fault : WorkFault}
  {records : List WayRecord} {content : Content}

@[simp] theorem state_classifyFile (t : Traces) (path : Path) :
    (classifyFile c place t path).state = t := by
  unfold classifyFile
  split <;> rfl

/-- A file whose ways are classified holds a table of texts. -/
theorem classifyFile_eq_ok (hlibrary : place.library.Lawful) {t : Traces} {path : Path}
    (h : (classifyFile c place t path).result = .ok records) :
    ∃ content table, place.disk path = .file content ∧
      place.library.read path content = .ok table ∧ table.Textual ∧
      (c.classifyTable table).result = .ok records := by
  cases hread : readTable place path with
  | error fault =>
    rw [classifyFile, hread] at h
    cases h
  | ok table =>
    rw [classifyFile, hread] at h
    have hframe : (c.classifyFrame place.library.column table).result = .ok records :=
      Outcome.ok_of_mapError h
    rw [readTable] at hread
    split at hread
    · next content hfile =>
      have htable := Outcome.ok_of_mapError hread
      have htexts : table.Textual := fun row hrow => hlibrary.read_texts htable hrow
      exact ⟨content, table, hfile, htable, htexts,
        Classifier.classifyTable_of_textual hlibrary.column htexts hframe⟩
    · cases hread

/-- What is written is what the library makes of the table. -/
theorem save_cases (place : Place) (t : Traces) (path : Path) (table : WayTable) :
    (∃ fault, save place t path table = .fail t fault ∧
      ((∃ w, fault = .write w) ∨ ∃ kind, fault = .unwritten kind)) ∨
    ∃ content, place.library.write path table = .ok content ∧
      save place t path table = .pure { t with written := some (path, content) } () := by
  rw [save]
  split
  · next w _ => exact .inl ⟨_, rfl, .inl ⟨w, rfl⟩⟩
  · split
    · next kind _ => exact .inl ⟨_, rfl, .inr ⟨kind, rfl⟩⟩
    · next content hcontent => exact .inr ⟨content, hcontent, rfl⟩

theorem classify_of_unclassified (h : (classifyFile c place {} input).result = .error fault) :
    (classify c place input (some output)).result = .error fault ∧
      (classify c place input (some output)).state = {} := by
  simp only [classify, report, Outcome.andThen, h, state_classifyFile, and_self]

theorem classify_of_unsaved (h : (classifyFile c place {} input).result = .ok records)
    (hsave : save place {} output (recordTable records) = .fail {} fault) :
    (classify c place input (some output)).result = .error fault ∧
      (classify c place input (some output)).state = {} := by
  simp only [classify, report, Outcome.andThen, h, state_classifyFile, hsave, Outcome.fail, and_self]

theorem classify_of_saved (h : (classifyFile c place {} input).result = .ok records)
    (hsave : save place {} output (recordTable records) =
      .pure { written := some (output, content) } ()) :
    (classify c place input (some output)).result =
        (print place { written := some (output, content) } (closingText records output)).result ∧
      (classify c place input (some output)).state =
        (print place { written := some (output, content) } (closingText records output)).state := by
  simp only [classify, report, Outcome.andThen, h, state_classifyFile, hsave, Outcome.pure,
    and_self]

theorem stats_of_unclassified (h : (classifyFile c place {} input).result = .error fault) :
    (stats c place input).result = .error fault ∧ (stats c place input).state = {} := by
  simp only [stats, Outcome.andThen, h, state_classifyFile, and_self]

theorem stats_of_classified (h : (classifyFile c place {} input).result = .ok records) :
    (stats c place input).result =
        (printAll place {} (Statistics.ofRecords records).lines).result ∧
      (stats c place input).state =
        (printAll place {} (Statistics.ofRecords records).lines).state := by
  simp only [stats, Outcome.andThen, h, state_classifyFile, and_self]

/-! ### What a classification writes -/

/-- There is one line for each row of a table, with the identifier of the row, in the order of the
    rows. -/
def LinesOf (table : WayTable) (lines : List (List String)) : Prop :=
  List.Forall₂ (fun row line => ∃ (id : String) (a : Access) (d : Directions),
      WayTable.cell table.columns row "way_id" = .text id ∧
      line = [id, a.word, Json.boolText d.forward, Json.boolText d.backward])
    table.rows lines

/-- A text that holds the header and the lines of a table. -/
structure RecordsOf (table : WayTable) (lines : List (List String)) (text : String) : Prop where
  rows : LinesOf table lines
  holds : Csv.Holds Csv.Bare text (["way_id", "access", "forward", "backward"] :: lines)
  /-- It can be read in no other way. -/
  only : ∀ lines', Csv.Holds Csv.Bare text lines' →
    lines' = ["way_id", "access", "forward", "backward"] :: lines
  /-- Without carriage returns in the identifiers it is the same to all readers. -/
  plain : (∀ line ∈ lines, ∀ id ∈ line.head?, '\r' ∉ id.toList) →
    Csv.Holds Csv.Plain text (["way_id", "access", "forward", "backward"] :: lines)

/-- The output of a classification is complete, and no other file is touched. -/
structure Completed (place : Place) (after : Disk) (source target : Path) (table : WayTable)
    (lines : List (List String)) (text : String) : Prop where
  /-- The table is the one in the input; of a regular text it has the lines. -/
  input : ∃ content, place.disk source = .file content ∧
    place.library.read source content = .ok table ∧
    ∀ given columns rows, place.library.text? source content = some given →
      Csv.Regular given columns rows → table = .ofLines columns rows
  records : RecordsOf table lines text
  /-- The text stands in the output.  The library finds the lines there unless an identifier with a
      carriage return stands without quotes. -/
  output : ∃ content, after target = .file content ∧
    place.library.text? target content = some text ∧
    (Csv.Holds Csv.Plain text (["way_id", "access", "forward", "backward"] :: lines) →
      place.library.read target content =
        .ok (.ofLines ["way_id", "access", "forward", "backward"] lines))
  others : ∀ p ≠ target, ∀ content, after p = .file content ↔ place.disk p = .file content

/-- Only the identifier of a classified way can hold a carriage return. -/
theorem not_return_of_word (a : Access) : '\r' ∉ a.word.toList := by
  cases a <;> decide

theorem not_return_of_boolText (b : Bool) : '\r' ∉ (Json.boolText b).toList := by
  cases b <;> decide

theorem not_return_of_recordFields {record : WayRecord} (h : '\r' ∉ record.way.label.toList) :
    ∀ field ∈ recordFields record, '\r' ∉ field.toList := by
  simp only [recordFields, List.forall_mem_cons, List.not_mem_nil, false_imp_iff, implies_true,
    and_true]
  exact ⟨h, not_return_of_word _, not_return_of_boolText _, not_return_of_boolText _⟩

/-- The records of a table of texts are written in the order of its rows, under the identifiers in the
    column `way_id`. -/
theorem linesOf_classifyTable {table : WayTable} (htexts : table.Textual)
    (h : (c.classifyTable table).result = .ok records) :
    LinesOf table (records.map recordFields) := by
  have hcolumn :=
    WayTable.mem_columns_of_missingColumns (Classifier.missingColumns_of_classifyTable h)
  have hrecords := Classifier.forall₂_rowRecords (Classifier.rowRecords_of_classifyTable h)
  have hmem : List.Forall₂ (fun row (record : WayRecord) => row ∈ table.rows ∧
      record.way = WayTable.cell table.columns row "way_id") table.rows records :=
    (List.forall₂_and_left ..).2 ⟨fun _ hrow => hrow, hrecords⟩
  rw [LinesOf, List.forall₂_map_right_iff]
  refine hmem.imp ?_
  rintro row record ⟨hrow, hway⟩
  obtain ⟨id, hid⟩ := htexts.cell_eq_text hcolumn hrow
  refine ⟨id, record.access, record.directions, hid, ?_⟩
  rw [recordFields, hway, hid, Json.label_text]

theorem recordsOf_classifyTable {table : WayTable} {text : String} (htexts : table.Textual)
    (h : (c.classifyTable table).result = .ok records)
    (hholds : Csv.Holds Csv.Bare text (recordTable records).lines) :
    RecordsOf table (records.map recordFields) text where
  rows := linesOf_classifyTable htexts h
  holds := lines_recordTable records ▸ hholds
  only lines' hlines' := by
    rw [hlines'.unique hholds, lines_recordTable]
    rfl
  plain hreturn := by
    rw [lines_recordTable] at hholds
    refine hholds.plain ?_
    rw [List.forall_mem_cons, List.forall_mem_map]
    constructor
    · decide
    · intro record hrecord
      exact not_return_of_recordFields
        (hreturn (recordFields record) (List.mem_map_of_mem hrecord) record.way.label rfl)

/-- A text in which classified ways are the same to all readers is regular. -/
theorem regular_of_plain {text : String}
    (h : Csv.Holds Csv.Plain text (recordColumns :: records.map recordFields)) :
    Csv.Regular text recordColumns (records.map recordFields) where
  holds := h
  several := by decide
  distinct := by decide
  named := by decide
  complete line hline := by
    obtain ⟨record, -, rfl⟩ := List.mem_map.1 hline
    rfl
  unmarked := by
    -- The text begins with the header or with the quote before it.
    have hfirst : "way_id".toList = 'w' :: "ay_id".toList := by decide
    rcases h.head_eq hfirst with hhead | hhead <;>
      rw [hhead] <;> decide

/-- **A classification that has written its output** has completed it. -/
theorem completed_of_written (hlibrary : place.library.Lawful) {r : Result}
    (h : (classifyFile c place {} input).result = .ok records)
    (hcontent : place.library.write output (recordTable records) = .ok content)
    (hwritten : r.written = some (output, content)) :
    ∃ table text, Completed place (r.leaves place.disk) input output table
      (records.map recordFields) text := by
  obtain ⟨source, table, hfile, hread, htexts, hresult⟩ := classifyFile_eq_ok hlibrary h
  obtain ⟨text, htext, hholds⟩ :=
    hlibrary.write_holds (Classifier.simple_recordTable htexts hresult) hcontent
  have hleaves := Result.leaves_of_written hwritten place.disk
  refine ⟨table, text, ⟨source, hfile, hread, ?_⟩, recordsOf_classifyTable htexts hresult hholds,
    ⟨content, ?_, htext, ?_⟩, ?_⟩
  · intro sourceText columns rows hsource hregular
    exact Except.ok.inj (hread.symm.trans (hlibrary.read_regular hsource hregular))
  · rw [hleaves]
    exact Disk.write_self ..
  · exact fun hplain => hlibrary.read_regular htext (regular_of_plain hplain)
  · intro p hp other
    rw [hleaves]
    exact Disk.write_eq_file_iff place.disk hp content other

/-! ### Runs -/

/-- The command has done its work: a single way and the statistics leave the disk as it was, and a
    classification has completed its output. -/
def Done (place : Place) (after : Disk) : Task → Prop
  | .way _ | .stats _ => after = place.disk
  | .classify input output => ∃ source target table lines text,
    place.path? input = some source ∧ place.path? output = some target ∧
    Completed place after source target table lines text

/-- Behind what it has printed, the command prints the text: a classification one text in the end, and
    the statistics their lines one after the other. -/
def Prints (place : Place) (printed text : String) : Task → Prop
  | .way _ => False
  | .classify _ output => printed = "" ∧ ∃ (target : Path) (ways : Nat),
    place.path? output = some target ∧
    text = s!"Ways classificadas: {ways} -> {target.toText}\n"
  | .stats _ => ∃ (s : Statistics) (before after : List String),
    s.lines = before ++ text :: after ∧ printed = String.join before

/-- The command had done its work when standard output did not take a text. -/
structure Refused (place : Place) (r : Result) (task : Task) : Prop where
  code : r.exit = .code 2
  refusal : ∃ text e, Prints place r.printed text task ∧ place.refusal? r.printed text = some e
  done : Done place (r.leaves place.disk) task

/-- The run has done its work if it ends with code 0.  Otherwise it has left no trace, unless standard
    output did not take a text. -/
structure Settled (place : Place) (task : Task) (r : Result) : Prop where
  success : r.exit = .code 0 → Done place (r.leaves place.disk) task
  failure : r.exit ≠ .code 0 →
    (r.printed = "" ∧ r.leaves place.disk = place.disk) ∨ Refused place r task

theorem settled_of_traceless {task : Task} {r : Result} (hexit : r.exit ≠ .code 0)
    (hprinted : r.printed = "") (hwritten : r.written = none) : Settled place task r where
  success h := absurd h hexit
  failure _ := .inl ⟨hprinted, Result.leaves_of_written_none hwritten _⟩

section

variable {o : Work Unit} {task : Task}

theorem ofFileWork_of_error (h : o.result = .error fault) :
    Result.ofFileWork o = .ofWork o (.code 2) [.failed fault] := by
  rw [Result.ofFileWork, h]

theorem ofFileWork_of_ok (h : o.result = .ok ()) :
    Result.ofFileWork o = .ofWork o (.code 0) [.finished] := by
  rw [Result.ofFileWork, h]

/-- Work that fails before it has done anything leaves no trace. -/
theorem settled_of_untouched (h : o.result = .error fault) (hstate : o.state = {}) :
    Settled place task (.ofFileWork o) := by
  rw [ofFileWork_of_error h]
  refine settled_of_traceless (nofun) ?_ ?_
  · show o.state.printed = ""
    rw [hstate]
  · show o.state.written = none
    rw [hstate]

end

/-- Once the output is there a classification has done its work, whether the closing text is taken or
    not. -/
theorem settled_of_saved (hlibrary : place.library.Lawful) {source target : String}
    (hinput : place.path? source = some input) (houtput : place.path? target = some output)
    (h : (classifyFile c place {} input).result = .ok records)
    (hcontent : place.library.write output (recordTable records) = .ok content)
    (hsave : save place {} output (recordTable records) =
      .pure { written := some (output, content) } ()) :
    Settled place (.classify source target) (.ofFileWork (classify c place input (some output))) := by
  obtain ⟨hresult, hstate⟩ := classify_of_saved h hsave
  have hdone : ∀ r : Result, r.written = some (output, content) →
      Done place (r.leaves place.disk) (.classify source target) := by
    intro r hwritten
    obtain ⟨table, text, hcompleted⟩ := completed_of_written hlibrary h hcontent hwritten
    exact ⟨input, output, table, _, text, hinput, houtput, hcompleted⟩
  cases hprint : place.refusal? "" (closingText records output) with
  | none =>
    rw [print_of_taken hprint] at hresult hstate
    rw [ofFileWork_of_ok hresult]
    refine ⟨fun _ => hdone _ ?_, fun hne => absurd rfl hne⟩
    show (classify c place input (some output)).state.written = _
    rw [hstate]
    rfl
  | some e =>
    rw [print_of_refused hprint] at hresult hstate
    rw [ofFileWork_of_error hresult]
    have hprinted : (classify c place input (some output)).state.printed = "" := by
      rw [hstate]
      rfl
    refine ⟨nofun, fun _ => .inr ⟨rfl, ⟨closingText records output, e, ?_, ?_⟩, hdone _ ?_⟩⟩
    · exact ⟨hprinted, output, records.length, houtput, rfl⟩
    · show place.refusal? (classify c place input (some output)).state.printed _ = _
      rw [hprinted]
      exact hprint
    · show (classify c place input (some output)).state.written = _
      rw [hstate]
      rfl

/-- Before that a classification neither prints nor writes. -/
theorem settled_classify (hlibrary : place.library.Lawful) {source target : String}
    (hinput : place.path? source = some input) :
    Settled place (.classify source target)
      (.ofFileWork (classify c place input (place.path? target))) := by
  cases houtput : place.path? target with
  | none => exact settled_of_untouched rfl rfl
  | some output =>
    cases h : (classifyFile c place {} input).result with
    | error fault =>
      obtain ⟨hresult, hstate⟩ :
          (classify c place input (some output)).result = .error fault ∧
            (classify c place input (some output)).state = {} :=
        classify_of_unclassified h
      exact settled_of_untouched hresult hstate
    | ok records =>
      rcases save_cases place {} output (recordTable records) with
        ⟨fault, hsave, -⟩ | ⟨content, hcontent, hsave⟩
      · obtain ⟨hresult, hstate⟩ := classify_of_unsaved h hsave
        exact settled_of_untouched hresult hstate
      · exact settled_of_saved hlibrary hinput houtput h hcontent hsave

theorem settled_stats {source : String} :
    Settled place (.stats source) (.ofFileWork (stats c place input)) := by
  cases h : (classifyFile c place {} input).result with
  | error fault =>
    obtain ⟨hresult, hstate⟩ := stats_of_unclassified h
    exact settled_of_untouched hresult hstate
  | ok records =>
    obtain ⟨hresult, hstate⟩ := stats_of_classified h
    obtain ⟨hwritten, hprinted⟩ := printAll_cases place {} (Statistics.ofRecords records).lines
    rw [← hstate] at hwritten hprinted
    rw [← hresult] at hprinted
    have hdone : ∀ (exit : Exit) (last : List Report),
        (Result.ofWork (stats c place input) exit last).leaves place.disk = place.disk :=
      fun _ _ => Result.leaves_of_written_none hwritten _
    rcases hprinted with ⟨hok, -⟩ | ⟨before, text, after, e, hlines, hbefore, he, herror⟩
    · rw [ofFileWork_of_ok hok]
      exact ⟨fun _ => hdone _ _, fun hne => absurd rfl hne⟩
    · rw [ofFileWork_of_error herror]
      rw [String.empty_append] at hbefore
      exact ⟨nofun, fun _ => .inr
        ⟨rfl, ⟨text, e, ⟨_, before, after, hlines, hbefore⟩, he⟩, hdone _ _⟩⟩

/-- A single way writes nothing, and prints its only text in the end. -/
theorem wayWork_cases (c : Classifier) (place : Place) (pairs : List String) :
    (wayWork c place pairs).state.written = none ∧
      ((∃ fault, (wayWork c place pairs).result = .error fault ∧
          (wayWork c place pairs).state.printed = "") ∨
        (wayWork c place pairs).result = .ok ()) := by
  rw [wayWork]
  cases Tags.readPairs pairs with
  | error fault => exact ⟨rfl, .inl ⟨_, rfl, rfl⟩⟩
  | ok tags =>
    dsimp only
    cases h : (c.classifyWay FlagTable.empty (Identifier.int 0) tags .null).result with
    | error fault =>
      rw [Outcome.andThen_of_error (e := .table (.unhandled fault)) (by simp [Except.mapError])]
      exact ⟨rfl, .inl ⟨_, rfl, rfl⟩⟩
    | ok pair =>
      rw [Outcome.andThen_of_ok (a := pair) (by simp [Except.mapError])]
      cases hprint : place.refusal? "" (wayText pair.1 pair.2) with
      | none =>
        rw [print_of_taken hprint]
        exact ⟨rfl, .inr rfl⟩
      | some e =>
        rw [print_of_refused hprint]
        exact ⟨rfl, .inl ⟨_, rfl, rfl⟩⟩

theorem settled_way {words : List String} : Settled place (.way words) (way c place words) := by
  obtain ⟨hwritten, hcases⟩ := wayWork_cases c place words
  rcases hcases with ⟨fault, herror, hprinted⟩ | hok
  · -- Whatever kind of error it is, nothing has been printed.
    unfold way
    dsimp only
    rw [herror]
    cases fault with
    | refused e =>
      dsimp only
      split <;> exact settled_of_traceless nofun hprinted hwritten
    | _ => exact settled_of_traceless nofun hprinted hwritten
  · unfold way
    dsimp only
    rw [hok]
    exact ⟨fun _ => Result.leaves_of_written_none hwritten _, fun hne => absurd rfl hne⟩

/-- **A command does its work or leaves no trace**, unless standard output does not take a text. -/
theorem settled_perform (hlibrary : place.library.Lawful) (i : Invocation) :
    Settled place i.task (i.perform place) := by
  unfold Invocation.perform
  cases i.settings.profile with
  | error fault => exact settled_of_traceless nofun rfl rfl
  | ok profile =>
    dsimp only
    cases i.task with
    | way words => exact settled_way
    | classify source target =>
      rw [perform, withInput]
      cases hinput : place.path? source with
      | none => exact settled_of_traceless nofun rfl rfl
      | some input =>
        dsimp only
        split
        · exact settled_of_traceless nofun rfl rfl
        · exact settled_classify hlibrary hinput
    | stats source =>
      rw [perform, withInput]
      cases place.path? source with
      | none => exact settled_of_traceless nofun rfl rfl
      | some input =>
        dsimp only
        split
        · exact settled_of_traceless nofun rfl rfl
        · exact settled_stats

/-- What is shown of the reports makes no difference to the rest of a run. -/
theorem settled_run (hlibrary : place.library.Lawful) {words : List String} {i : Invocation}
    (h : Invocation.read words = .ok i) :
    ∃ r, run place words = .ok r ∧ Settled place i.task r := by
  simp only [run, h, bind, Except.bind]
  cases i.settings.threshold with
  | error kind => exact ⟨_, rfl, settled_of_traceless nofun rfl rfl⟩
  | ok rank =>
    obtain ⟨hsuccess, hfailure⟩ := settled_perform hlibrary i
    refine ⟨_, rfl, hsuccess, fun hexit => (hfailure hexit).imp_right ?_⟩
    exact fun hrefused => ⟨hrefused.code, hrefused.refusal, hrefused.done⟩

/-- **All or nothing.**  A command line that can be read is run to a result.  If its exit code is not 0,
    or an error ends it, nothing has been printed and the disk is as it was, unless standard output did
    not take a text.  If the code is 0, a single way and the statistics have left the disk as it was; and
    a classification has touched no file but its output, which then holds the header and, for each row of
    the table in the input, one line with the identifier of the row, in the order of the rows.  After a
    text that was not taken the code is 2 and the disk is as if it were 0; it is the closing text of a
    classification, which prints nothing else, or one of the lines of the statistics. -/
theorem run_all_or_nothing (place : Place) (hlibrary : place.library.Lawful) (words : List String)
    (i : Invocation) (h : Invocation.read words = .ok i) :
    ∃ r, run place words = .ok r ∧
      (r.exit = .code 0 → Done place (r.leaves place.disk) i.task) ∧
      (r.exit ≠ .code 0 →
        (r.printed = "" ∧ r.leaves place.disk = place.disk) ∨ Refused place r i.task) := by
  obtain ⟨r, hrun, hsettled⟩ := settled_run hlibrary h
  exact ⟨r, hrun, hsettled.success, hsettled.failure⟩

/-- A table of two ways, one with a comma in its identifier, that is classified into a new directory; and
    the same command line where the input is not there. -/
theorem run_all_or_nothing_at_two_ways :
    let content := "way_id,tags\n\"1,2\",\"\x7b\"\"highway\"\": \"\"tertiary\"\"\x7d\"\n3,\n"
    let words := ["classify", "--in", "ways.csv", "--out", "new/out.csv"]
    let input : Path := ["data", "ways.csv"]
    let output : Path := ["data", "new", "out.csv"]
    let bare : Place :=
      { working := ["data"]
        homes := fun _ => none
        disk := fun _ => .missing
        library := Csv.library
        refusal? := fun _ _ => none }
    let place := { bare with disk := fun p => if p = input then .file (.text content) else .missing }
    Csv.library.Lawful ∧ Invocation.read words = .ok ⟨{}, .classify "ways.csv" "new/out.csv"⟩ ∧
      (∃ r, run place words = .ok r ∧ r.exit = .code 0 ∧
        r.printed = "Ways classificadas: 2 -> /data/new/out.csv\n" ∧
        r.leaves place.disk output = .file (.text ("way_id,access,forward,backward\n" ++
          "\"1,2\",routable,True,True\n3,skip,False,False\n")) ∧
        ∃ table lines text, Completed place (r.leaves place.disk) input output table lines text ∧
          lines = [["1,2", "routable", "True", "True"], ["3", "skip", "False", "False"]] ∧
          table.rows.length = 2) ∧
      ∃ r, run bare words = .ok r ∧ r.exit = .code 1 ∧ r.printed = "" ∧
        r.leaves bare.disk = bare.disk := by
  intro content words input output bare place
  have hread : Invocation.read words = .ok ⟨{}, .classify "ways.csv" "new/out.csv"⟩ := by
    decide +kernel
  have hin : place.path? "ways.csv" = some input := by decide +kernel
  have hout : place.path? "new/out.csv" = some output := by decide +kernel
  refine ⟨Csv.library_lawful, hread, ?_, ?_⟩
  · obtain ⟨r, hrun, hsuccess, -⟩ := run_all_or_nothing place Csv.library_lawful words _ hread
    have hresult : (run place words).map (fun r => (r.exit, r.printed, r.written)) =
        .ok (.code 0, "Ways classificadas: 2 -> /data/new/out.csv\n",
          some (output, .text ("way_id,access,forward,backward\n" ++
            "\"1,2\",routable,True,True\n3,skip,False,False\n"))) := by
      decide +kernel
    rw [hrun] at hresult
    obtain ⟨hexit, hprinted, hwritten⟩ :
        r.exit = .code 0 ∧ r.printed = "Ways classificadas: 2 -> /data/new/out.csv\n" ∧
          r.written = some (output, .text ("way_id,access,forward,backward\n" ++
            "\"1,2\",routable,True,True\n3,skip,False,False\n")) := by
      simpa using Except.ok.inj hresult
    have hleaves : r.leaves place.disk output =
        .file (.text ("way_id,access,forward,backward\n" ++
          "\"1,2\",routable,True,True\n3,skip,False,False\n")) := by
      rw [Result.leaves_of_written hwritten]
      exact Disk.write_self ..
    obtain ⟨source, target, table, lines, text, hsource, htarget, hcompleted⟩ := hsuccess hexit
    obtain rfl := Option.some.inj (hin.symm.trans hsource)
    obtain rfl := Option.some.inj (hout.symm.trans htarget)
    have hlines : lines = [["1,2", "routable", "True", "True"], ["3", "skip", "False", "False"]] := by
      obtain ⟨stored, hstored, htext, -⟩ := hcompleted.output
      obtain rfl := Entry.file.inj (hleaves.symm.trans hstored)
      obtain rfl := Option.some.inj htext
      -- The text is that of these lines, and of no other ones.
      have hheld : Csv.Holds Csv.Bare (Csv.write [recordColumns,
          ["1,2", "routable", "True", "True"], ["3", "skip", "False", "False"]])
          [recordColumns, ["1,2", "routable", "True", "True"], ["3", "skip", "False", "False"]] :=
        Csv.holds_write (by decide)
      exact (List.cons.inj (hcompleted.records.only _ hheld)).2.symm
    refine ⟨r, hrun, hexit, hprinted, hleaves, table, lines, text, hcompleted, hlines, ?_⟩
    rw [List.Forall₂.length_eq hcompleted.records.rows, hlines]
    rfl
  · obtain ⟨r, hrun, -, hfailure⟩ := run_all_or_nothing bare Csv.library_lawful words _ hread
    have hresult : (run bare words).map (fun r => (r.exit, r.printed, r.written)) =
        .ok (.code 1, "", none) := by
      decide +kernel
    rw [hrun] at hresult
    obtain ⟨hexit, -, -⟩ : r.exit = .code 1 ∧ r.printed = "" ∧ r.written = none := by
      simpa using Except.ok.inj hresult
    rcases hfailure (by rw [hexit]; decide) with ⟨hprinted, hdisk⟩ | hrefused
    · exact ⟨r, hrun, hexit, hprinted, hdisk⟩
    · rw [hrefused.code] at hexit
      cases hexit

/-- **Where it cannot say more.**  A run can fail with its output already there: standard output does not
    take the closing text, which names a file with a letter outside ASCII.  And a run can succeed with an
    output in which its own library finds more records than the input has rows: an identifier with a
    carriage return stands in it without quotes. -/
theorem run_not_all_or_nothing :
    let place (content : String) : Place :=
      { working := ["data"]
        homes := fun _ => none
        disk := fun p => if p = ["data", "w.csv"] then .file (.text content) else .missing
        library := Csv.library
        refusal? := fun _ text =>
          if text.toList.all fun c => c.toNat < 128 then none
          else some ⟨.encoding, "ordinal not in range(128)"⟩ }
    let plain := place "way_id,tags\n1,\n"
    let broken := place "way_id,tags\n\"a\rb\",\x7b\x7d\n"
    Csv.library.Lawful ∧
      (∃ r, run plain ["classify", "--in", "w.csv", "--out", "saída.csv"] = .ok r ∧
        r.exit = .code 2 ∧ plain.disk ["data", "saída.csv"] = .missing ∧
        r.leaves plain.disk ["data", "saída.csv"] =
          .file (.text "way_id,access,forward,backward\n1,skip,False,False\n")) ∧
      ∃ r, run broken ["classify", "--in", "w.csv", "--out", "o.csv"] = .ok r ∧ r.exit = .code 0 ∧
        r.leaves broken.disk ["data", "o.csv"] =
          .file (.text "way_id,access,forward,backward\na\rb,skip,False,False\n") ∧
        (Csv.read "way_id,tags\n\"a\rb\",\x7b\x7d\n").map (fun t => t.rows.length) = .ok 1 ∧
        (Csv.read "way_id,access,forward,backward\na\rb,skip,False,False\n").map
          (fun t => t.rows.length) = .ok 2 := by
  intro place plain broken
  refine ⟨Csv.library_lawful, ?_, ?_⟩
  · have hresult : (run plain ["classify", "--in", "w.csv", "--out", "saída.csv"]).map
        (fun r => (r.exit, r.written)) =
        .ok (.code 2, some (["data", "saída.csv"],
          .text "way_id,access,forward,backward\n1,skip,False,False\n")) := by
      decide +kernel
    obtain ⟨r, hrun, hr⟩ := Outcome.ok_of_map hresult
    obtain ⟨hexit, hwritten⟩ := Prod.mk.inj hr
    refine ⟨r, hrun, hexit, by decide +kernel, ?_⟩
    rw [Result.leaves_of_written hwritten]
    exact Disk.write_self ..
  · have hresult : (run broken ["classify", "--in", "w.csv", "--out", "o.csv"]).map
        (fun r => (r.exit, r.written)) =
        .ok (.code 0, some (["data", "o.csv"],
          .text "way_id,access,forward,backward\na\rb,skip,False,False\n")) := by
      decide +kernel
    obtain ⟨r, hrun, hr⟩ := Outcome.ok_of_map hresult
    obtain ⟨hexit, hwritten⟩ := Prod.mk.inj hr
    refine ⟨r, hrun, hexit, ?_, by decide +kernel, by decide +kernel⟩
    rw [Result.leaves_of_written hwritten]
    exact Disk.write_self ..

end Command

end RoadAccess
