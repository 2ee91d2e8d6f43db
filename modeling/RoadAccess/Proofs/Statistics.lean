import RoadAccess.Proofs.Effects
import RoadAccess.Proofs.Shape

namespace RoadAccess

/-!
# The statistics count what a classification writes

The statistics of a file and its classification go the same way up to the classified ways; then the one
counts them and the other writes them.  So they fail alike before anything is written, and the numbers
that are printed can be read off the lines that are written.

* `Classifier.leavesOneSense` — a row with a routable way of which one sense is left;
  `Classifier.countP_leavesOneSense` — these are the ways that are open in one sense only;
* `Command.Statistics.ofLines` — the numbers as they are read off written lines;
  `Command.Statistics.ofLines_eq` — they are those of the classified ways;
* `Command.Result.FailsWith` — a run fails with a fault; `Command.failsWith_stats_iff`,
  `Command.failsWith_classify_iff` — the two commands fail alike in reading and classifying;
* `Command.CountsWritten` — what the two commands have to do with each other;
  `Command.statistics_count_written` — so it is with every file, under all settings.
-/

/-! ### Rows of which one sense is left -/

/-- Lists whose items are counted in pairs have the same count. -/
theorem countP_eq_of_forall₂ {α β : Type} {p : α → Bool} {q : β → Bool} {as : List α} {bs : List β}
    (h : List.Forall₂ (fun a b => p a = q b) as bs) : as.countP p = bs.countP q := by
  induction h with
  | nil => rfl
  | cons hab _ ih => rw [List.countP_cons, List.countP_cons, hab, ih]

namespace Classifier

variable {c : Classifier}

instance (c : Classifier) (t : Tags) (nodes : Json) : Decidable (c.Barred t nodes) :=
  decidable_of_iff _ (closes_eq_true_iff c t nodes)

/-- The row holds a routable way that its tags do not open in both senses and whose edge is not
    barred. -/
def leavesOneSense (c : Classifier) (columns : List String) (row : List Json) : Bool :=
  match WayTable.loadRow columns row with
  | .error _ => false
  | .ok (t, nodes) =>
    c.access t = .routable ∧ c.profile.directions t t.isRoundabout ≠ .both ∧ ¬ c.Barred t nodes

/-- A way that is open at all is open in both senses or in a single one. -/
theorem forward_ne_backward_iff {d : Directions} (h : d.forward = true ∨ d.backward = true) :
    d.forward ≠ d.backward ↔ d ≠ .both := by
  obtain ⟨forward, backward⟩ := d
  cases forward <;> cases backward <;> simp [Directions.both] at h ⊢

/-- The record of a row is open in a single sense exactly if one sense is left of a routable way. -/
theorem leavesOneSense_iff (hkeys : c.roundaboutKey ≠ c.accessKey) {columns : List String}
    {position : Nat} {row : List Json} {record : WayRecord}
    (h : c.rowRecord columns position row = .ok record) :
    c.leavesOneSense columns row = true ↔
      record.directions.forward ≠ record.directions.backward := by
  obtain ⟨t, nodes, pair, hload, hv, rfl⟩ := rowRecord_eq_ok h
  rw [leavesOneSense, hload, decide_eq_true_eq, unsettled_of_ne hkeys]
  rcases verdict_eq_ok hv with ⟨ha, rfl⟩ | ⟨d, barred, hd, hc, rfl⟩
  · -- A way that stays out is closed in both senses.
    simp [ha, Directions.closed]
  · have hbarred : barred = true ↔ c.Barred t nodes := by
      rw [← closes_eq_true_iff, hc, Except.ok.injEq]
    cases barred with
    | true =>
      have hclosed : c.Barred t nodes := hbarred.1 rfl
      simp [hclosed, Directions.closed]
    | false =>
      -- The senses are those that the tags open, which are both for a ferry.
      have hopen : ¬ c.Barred t nodes := fun hb => Bool.false_ne_true (hbarred.2 hb)
      have hone := forward_ne_backward_iff (senses_open hd)
      rcases senses_eq_some hd with ⟨ha, rfl⟩ | ⟨ha, rfl⟩
      · simpa [ha, hopen] using hone.symm
      · simp [ha, Directions.both]

/-- Each record is that of its row. -/
theorem forall₂_rowRecord {columns : List String} {position : Nat} {rows : List (List Json)}
    {records : List WayRecord} (h : c.rowRecords columns position rows = .ok records) :
    List.Forall₂ (fun row record => ∃ i, c.rowRecord columns i row = .ok record) rows records := by
  rw [List.forall₂_iff_get]
  refine ⟨(length_of_rowRecords h).symm, ?_⟩
  intro i hrow hrecord
  obtain ⟨record, hr, hi⟩ := rowRecords_getElem? h (List.getElem?_eq_getElem hrow)
  rw [List.getElem?_eq_getElem hrecord, Option.some.injEq] at hi
  refine ⟨position + i, ?_⟩
  rw [List.get_eq_getElem, List.get_eq_getElem, hi]
  exact hr

variable {table : WayTable} {records : List WayRecord}

/-- **The ways that are open in a single sense** are the routable ones of which one sense is left. -/
theorem countP_leavesOneSense (hkeys : c.roundaboutKey ≠ c.accessKey)
    (h : (c.classifyTable table).result = .ok records) :
    table.rows.countP (c.leavesOneSense table.columns) =
      records.countP fun r => r.directions.forward ≠ r.directions.backward := by
  apply countP_eq_of_forall₂
  refine (forall₂_rowRecord (rowRecords_of_classifyTable h)).imp ?_
  rintro row record ⟨i, hrecord⟩
  rw [Bool.eq_iff_iff, decide_eq_true_eq]
  exact leavesOneSense_iff hkeys hrecord

/-- All of them are routable, so it makes no difference whether the access to a way is looked at. -/
theorem countP_forward_ne_backward (hkeys : c.roundaboutKey ≠ c.accessKey)
    (h : (c.classifyTable table).result = .ok records) :
    (records.countP fun r => r.directions.forward ≠ r.directions.backward) =
      records.countP fun r =>
        r.access = .routable ∧ r.directions.forward ≠ r.directions.backward := by
  apply List.countP_congr
  intro record hmem
  obtain ⟨i, hi⟩ := List.getElem?_of_mem hmem
  obtain ⟨-, t, nodes, -, -, -, -, hshaped⟩ := shaped_of_classifyTable hkeys h hi
  simp only [decide_eq_true_eq]
  constructor
  · intro hne
    have hroutable := hshaped.routable_of_ne hne
    exact ⟨hroutable, hne⟩
  · rintro ⟨-, hne⟩
    exact hne

end Classifier

/-! ### Numbers -/

/-- Every access has a word of its own. -/
theorem Access.word_injective : Function.Injective Access.word := by
  intro a b h
  cases a <;> cases b <;> first | rfl | exact absurd h (by decide)

theorem Json.boolText_injective : Function.Injective Json.boolText := by
  intro a b h
  cases a <;> cases b <;> first | rfl | exact absurd h (by decide)

namespace Command

theorem countP_access (records : List WayRecord) :
    (records.countP fun r => r.access = .routable) + (records.countP fun r => r.access = .ferry) +
      (records.countP fun r => r.access = .skip) = records.length := by
  induction records with
  | nil => rfl
  | cons record records ih =>
    simp only [List.countP_cons, List.length_cons]
    cases record.access <;> simp <;> omega

/-- The numbers as they are read off the lines of a table of classified ways: the access stands in the
    second column, the senses in the third and in the fourth. -/
def Statistics.ofLines (lines : List (List String)) : Statistics :=
  let count (a : Access) := lines.countP fun fields => fields[1]? = some a.word
  { total := lines.length
    routable := count .routable
    ferry := count .ferry
    skip := count .skip
    oneway := lines.countP fun fields => fields[2]? ≠ fields[3]? }

/-- Except that they do not look at the access of a way that is open in a single sense, the numbers that
    are read off written ways are those of the ways. -/
theorem Statistics.ofLines_recordFields (records : List WayRecord) :
    ofLines (records.map recordFields) =
      { ofRecords records with
        oneway := records.countP fun r => r.directions.forward ≠ r.directions.backward } := by
  simp [ofLines, ofRecords, List.countP_map, Function.comp_def, recordFields,
    Access.word_injective.eq_iff, Json.boolText_injective.eq_iff]

/-- **The statistics can be read off the written ways**, whatever they are the numbers of. -/
theorem Statistics.ofLines_eq {c : Classifier} (hkeys : c.roundaboutKey ≠ c.accessKey)
    {table : WayTable} {records : List WayRecord} (h : (c.classifyTable table).result = .ok records) :
    ofLines (records.map recordFields) = ofRecords records := by
  rw [ofLines_recordFields, Classifier.countP_forward_ne_backward hkeys h]
  rfl

/-! ### Faults -/

/-- The run fails with this fault. -/
def Result.FailsWith (r : Result) (fault : WorkFault) : Prop :=
  r.exit = .code 2 ∧ r.reports.getLast? = some (.failed fault)

/-- The fault is one of reading or classifying. -/
def WorkFault.OfInput : WorkFault → Prop
  | .inputIsDirectory | .unread _ | .table _ => True
  | _ => False

/-- The fault is one of writing. -/
def WorkFault.OfOutput : WorkFault → Prop
  | .noHome | .write _ | .unwritten _ => True
  | _ => False

theorem WorkFault.OfOutput.not_ofInput {fault : WorkFault} (h : fault.OfOutput) : ¬ fault.OfInput := by
  cases fault <;> simp_all [WorkFault.OfInput, WorkFault.OfOutput]

variable {place : Place} {c : Classifier} {input output : Path} {fault : WorkFault}
  {records : List WayRecord} {o : Work Unit}

theorem failsWith_ofFileWork_iff : (Result.ofFileWork o).FailsWith fault ↔ o.result = .error fault := by
  cases h : o.result with
  | error fault' =>
    rw [ofFileWork_of_error h]
    simp [Result.FailsWith, Result.ofWork, eq_comm]
  | ok done =>
    rw [ofFileWork_of_ok h]
    simp [Result.FailsWith, Result.ofWork]

/-- A command that works on a file is not refused, and whatever fails in it is caught. -/
theorem exit_ofFileWork (o : Work Unit) :
    (Result.ofFileWork o).exit ≠ .code 1 ∧ ∀ kind, (Result.ofFileWork o).exit ≠ .raised kind := by
  cases h : o.result with
  | error fault =>
    rw [ofFileWork_of_error h]
    exact ⟨nofun, nofun⟩
  | ok done =>
    rw [ofFileWork_of_ok h]
    exact ⟨nofun, nofun⟩

theorem ofInput_of_classifyFile (h : (classifyFile c place {} input).result = .error fault) :
    fault.OfInput := by
  cases hread : readTable place input with
  | error fault' =>
    rw [classifyFile, hread] at h
    obtain rfl : fault' = fault := Except.error.inj h
    rw [readTable] at hread
    split at hread
    · obtain ⟨kind, -, rfl⟩ := Outcome.error_of_mapError hread
      trivial
    · obtain rfl := Except.error.inj hread
      trivial
  | ok table =>
    rw [classifyFile, hread] at h
    obtain ⟨fault', -, rfl⟩ := Outcome.error_of_mapError h
    trivial

/-- Once its ways are classified a file is not at fault any more. -/
theorem refused_of_stats (h : (classifyFile c place {} input).result = .ok records)
    (hfails : (stats c place input).result = .error fault) : ∃ e, fault = .refused e := by
  rw [(stats_of_classified h).1] at hfails
  rcases (printAll_cases place {} _).2 with ⟨hok, -⟩ | ⟨-, -, -, e, -, -, -, herror⟩
  · rw [hok] at hfails
    cases hfails
  · rw [herror] at hfails
    exact ⟨e, (Except.error.inj hfails).symm⟩

/-- The statistics fail in reading and classifying as the classification of the file does. -/
theorem failsWith_stats_iff (hfault : fault.OfInput) :
    (Result.ofFileWork (stats c place input)).FailsWith fault ↔
      (classifyFile c place {} input).result = .error fault := by
  rw [failsWith_ofFileWork_iff]
  cases h : (classifyFile c place {} input).result with
  | error fault' => rw [(stats_of_unclassified h).1, Except.error.injEq, Except.error.injEq]
  | ok records =>
    refine iff_of_false (fun hfails => ?_) nofun
    obtain ⟨e, rfl⟩ := refused_of_stats h hfails
    exact hfault

/-- What a classification with an output comes to once the ways are classified: it fails in writing, or
    it has written the ways and standard output takes the closing text or not. -/
theorem classify_written_or (h : (classifyFile c place {} input).result = .ok records)
    (output : Path) :
    (∃ fault, fault.OfOutput ∧ (classify c place input (some output)).result = .error fault) ∨
    ∃ content, place.library.write output (recordTable records) = .ok content ∧
      (classify c place input (some output)).state.written = some (output, content) ∧
      ((classify c place input (some output)).result = .ok () ∨
        ∃ e, (classify c place input (some output)).result = .error (.refused e)) := by
  rcases save_cases place {} output (recordTable records) with
    ⟨fault, hsave, hfault⟩ | ⟨content, hcontent, hsave⟩
  · refine .inl ⟨fault, ?_, (classify_of_unsaved h hsave).1⟩
    rcases hfault with ⟨w, rfl⟩ | ⟨kind, rfl⟩ <;> trivial
  · obtain ⟨hresult, hstate⟩ := classify_of_saved h hsave
    rw [hresult, hstate]
    refine .inr ⟨content, hcontent, ?_⟩
    cases hprint : place.refusal? "" (closingText records output) with
    | none =>
      rw [print_of_taken hprint]
      exact ⟨rfl, .inl rfl⟩
    | some e =>
      rw [print_of_refused hprint]
      exact ⟨rfl, .inr ⟨e, rfl⟩⟩

/-- So does a classification that has an output. -/
theorem failsWith_classify_iff (hfault : fault.OfInput) :
    (Result.ofFileWork (classify c place input (some output))).FailsWith fault ↔
      (classifyFile c place {} input).result = .error fault := by
  rw [failsWith_ofFileWork_iff]
  cases h : (classifyFile c place {} input).result with
  | error fault' => rw [(classify_of_unclassified h).1, Except.error.injEq, Except.error.injEq]
  | ok records =>
    refine iff_of_false (fun hfails => ?_) nofun
    rcases classify_written_or h output with ⟨fault', hwriting, herror⟩ | ⟨-, -, -, hok | ⟨e, herror⟩⟩
    · obtain rfl := Except.error.inj (herror.symm.trans hfails)
      exact hwriting.not_ofInput hfault
    · rw [hok] at hfails
      cases hfails
    · obtain rfl := Except.error.inj (herror.symm.trans hfails)
      exact hfault

/-! ### The whole -/

/-- A run that is to count the ways in a file, and one that is to classify them, under the same
    settings. -/
structure CountsWritten (place : Place) (settings : Settings) (source target : String)
    (counted classified : Result) : Prop where
  /-- Both are refused if either is: because of the options, or because the input is not there. -/
  refused_iff : counted.exit = .code 1 ↔ classified.exit = .code 1
  /-- An error that nothing catches ends both if it ends either: the input is in the home directory of
      a user who has none. -/
  raised_iff : ∀ kind, counted.exit = .raised kind ↔ classified.exit = .raised kind
  /-- They fail alike in reading and classifying, if there is a path for the output at all. -/
  fails_iff : place.path? target ≠ none → ∀ fault, fault.OfInput →
    (counted.FailsWith fault ↔ classified.FailsWith fault)
  /-- Otherwise there is a line for each row of the table in the input.  The first run prints the
      numbers of these lines, or as much of its text as standard output takes; and the second one
      writes the lines, unless it fails in writing. -/
  counts : counted.exit ≠ .code 1 → (∀ kind, counted.exit ≠ .raised kind) →
    (∀ fault, fault.OfInput → ¬ counted.FailsWith fault) →
    ∃ profile input content table lines,
      settings.profile = .ok profile ∧ place.path? source = some input ∧
      place.disk input = .file content ∧ place.library.read input content = .ok table ∧
      LinesOf table lines ∧
      let written (access : String) := lines.countP fun fields => fields[1]? = some access
      let routable := written "routable"
      let ferry := written "ferry"
      let skip := written "skip"
      let oneway := lines.countP fun fields => fields[2]? ≠ fields[3]?
      let text := s!"Ways |W|={lines.length}\n" ++ s!"  routable: {routable}\n" ++
        s!"  ferry: {ferry}\n" ++ s!"  skip: {skip}\n" ++ s!"  mão única (bicicleta): {oneway}\n"
      (counted.exit = .code 0 ∧ counted.printed = text ∨
        (∃ e, counted.FailsWith (.refused e)) ∧ counted.printed.toList <+: text.toList) ∧
      routable + ferry + skip = lines.length ∧
      oneway = table.rows.countP (Classifier.leavesOneSense { profile } table.columns) ∧
      ((∃ output stored text, place.path? target = some output ∧
          classified.written = some (output, stored) ∧
          place.library.text? output stored = some text ∧ RecordsOf table lines text ∧
          (classified.exit = .code 0 ∨ ∃ e, classified.FailsWith (.refused e))) ∨
        ∃ fault, fault.OfOutput ∧ classified.FailsWith fault)

variable {settings : Settings} {source target : String}

theorem countsWritten_of_code_one {counted classified : Result} (hcounted : counted.exit = .code 1)
    (hclassified : classified.exit = .code 1) :
    CountsWritten place settings source target counted classified where
  refused_iff := by rw [hcounted, hclassified]
  raised_iff kind := by rw [hcounted, hclassified]
  fails_iff _ fault _ := by simp [Result.FailsWith, hcounted, hclassified]
  counts hne := absurd hcounted hne

theorem countsWritten_of_raised {counted classified : Result} {kind : ErrorKind}
    (hcounted : counted.exit = .raised kind) (hclassified : classified.exit = .raised kind) :
    CountsWritten place settings source target counted classified where
  refused_iff := by rw [hcounted, hclassified]
  raised_iff kind := by rw [hcounted, hclassified]
  fails_iff _ fault _ := by simp [Result.FailsWith, hcounted, hclassified]
  counts _ hne := absurd hcounted (hne kind)

/-- The lines of the statistics one after the other. -/
theorem Statistics.join_lines (s : Statistics) :
    String.join s.lines =
      s!"Ways |W|={s.total}\n" ++ s!"  routable: {s.routable}\n" ++ s!"  ferry: {s.ferry}\n" ++
        s!"  skip: {s.skip}\n" ++ s!"  mão única (bicicleta): {s.oneway}\n" := by
  simp only [lines, String.join, List.foldl_cons, List.foldl_nil, String.empty_append]

/-- The statistics of a file print the numbers of its classified ways, as far as standard output takes
    them. -/
theorem printed_stats (h : (classifyFile c place {} input).result = .ok records) :
    let text := String.join (Statistics.ofRecords records).lines
    let counted := Result.ofFileWork (stats c place input)
    counted.exit = .code 0 ∧ counted.printed = text ∨
      (∃ e, counted.FailsWith (.refused e)) ∧ counted.printed.toList <+: text.toList := by
  intro text counted
  obtain ⟨hresult, hstate⟩ := stats_of_classified h
  rcases (printAll_cases place {} (Statistics.ofRecords records).lines).2 with
    ⟨hok, hprinted⟩ | ⟨before, last, after, e, hlines, hprinted, -, herror⟩
  · rw [← hresult] at hok
    rw [← hstate, String.empty_append] at hprinted
    refine .inl ?_
    simp only [counted, ofFileWork_of_ok hok]
    exact ⟨rfl, hprinted⟩
  · rw [← hresult] at herror
    rw [← hstate, String.empty_append] at hprinted
    refine .inr ⟨⟨e, failsWith_ofFileWork_iff.2 herror⟩, ?_⟩
    have hpart : counted.printed = String.join before := by
      simp only [counted, ofFileWork_of_error herror]
      exact hprinted
    simp only [hpart, text, hlines, String.join_append, String.toList_append]
    exact List.prefix_append _ _

/-- A classification writes a line for each of the ways, or fails in writing. -/
theorem written_lines (hlibrary : place.library.Lawful) {table : WayTable}
    (h : (classifyFile c place {} input).result = .ok records) (htexts : table.Textual)
    (hresult : (c.classifyTable table).result = .ok records) (target : Option Path) :
    let classified := Result.ofFileWork (classify c place input target)
    (∃ output stored text, target = some output ∧ classified.written = some (output, stored) ∧
      place.library.text? output stored = some text ∧
      RecordsOf table (records.map recordFields) text ∧
      (classified.exit = .code 0 ∨ ∃ e, classified.FailsWith (.refused e))) ∨
    ∃ fault, fault.OfOutput ∧ classified.FailsWith fault := by
  cases target with
  | none => exact .inr ⟨.noHome, trivial, failsWith_ofFileWork_iff.2 rfl⟩
  | some output =>
    rcases classify_written_or h output with
      ⟨fault, hfault, herror⟩ | ⟨stored, hstored, hwritten, hends⟩
    · exact .inr ⟨fault, hfault, failsWith_ofFileWork_iff.2 herror⟩
    · obtain ⟨text, htext, hholds⟩ :=
        hlibrary.write_holds (Classifier.simple_recordTable htexts hresult) hstored
      have hrecords := recordsOf_classifyTable htexts hresult hholds
      -- The file is there whether the closing text is taken or not.
      rcases hends with hok | ⟨e, herror⟩
      · rw [ofFileWork_of_ok hok]
        exact .inl ⟨output, stored, text, rfl, hwritten, htext, hrecords, .inl rfl⟩
      · have hfails := failsWith_ofFileWork_iff.2 herror
        rw [ofFileWork_of_error herror] at hfails ⊢
        exact .inl ⟨output, stored, text, rfl, hwritten, htext, hrecords, .inr ⟨e, hfails⟩⟩

/-- Where the input is there, the ways in it are classified by both, or by none. -/
theorem countsWritten_of_there (hlibrary : place.library.Lawful) {profile : Profile}
    (hprofile : settings.profile = .ok profile) (hinput : place.path? source = some input) :
    CountsWritten place settings source target (.ofFileWork (stats { profile } place input))
      (.ofFileWork (classify { profile } place input (place.path? target))) where
  refused_iff := iff_of_false (exit_ofFileWork _).1 (exit_ofFileWork _).1
  raised_iff kind := iff_of_false ((exit_ofFileWork _).2 kind) ((exit_ofFileWork _).2 kind)
  fails_iff htarget fault hfault := by
    obtain ⟨output, houtput⟩ := Option.ne_none_iff_exists'.1 htarget
    rw [houtput, failsWith_stats_iff hfault, failsWith_classify_iff hfault]
  counts _ _ hnone := by
    -- Whatever the profile, the flags of roundabouts are kept apart from those of access.
    have hkeys : Classifier.roundaboutKey { profile } ≠ Classifier.accessKey { profile } := by
      show "roundabout" ≠ "bike_access"
      decide
    cases hr : (classifyFile { profile } place {} input).result with
    | error fault =>
      have hfault := ofInput_of_classifyFile hr
      exact absurd ((failsWith_stats_iff hfault).2 hr) (hnone fault hfault)
    | ok records =>
      obtain ⟨content, table, hfile, hread, htexts, hresult⟩ := classifyFile_eq_ok hlibrary hr
      have hnumbers := Statistics.ofLines_eq hkeys hresult
      have honeway : (Statistics.ofRecords records).oneway =
          table.rows.countP (Classifier.leavesOneSense { profile } table.columns) := by
        rw [Classifier.countP_leavesOneSense hkeys hresult,
          Classifier.countP_forward_ne_backward hkeys hresult]
        rfl
      have hsum : (Statistics.ofRecords records).routable + (Statistics.ofRecords records).ferry +
          (Statistics.ofRecords records).skip = (Statistics.ofRecords records).total :=
        countP_access records
      have hprinted := printed_stats hr
      rw [← hnumbers] at honeway hsum
      simp only [← hnumbers, Statistics.join_lines] at hprinted
      refine ⟨profile, input, content, table, records.map recordFields, hprofile, hinput, hfile,
        hread, linesOf_classifyTable htexts hresult, hprinted, hsum, honeway, ?_⟩
      exact written_lines hlibrary hr htexts hresult (place.path? target)

/-- **The statistics count what a classification writes.**  For every file and under all settings the
    two commands are refused together and fail together in reading and classifying.  Otherwise the number
    of all ways that is printed is that of the lines that are written, the numbers for the kinds of access
    are those of the lines with that access and sum up to it, and the number of ways that are open in a
    single sense is that of the lines with two different senses, whatever their access, and that of the
    rows with a routable way that is neither open in both senses nor barred. -/
theorem statistics_count_written (place : Place) (hlibrary : place.library.Lawful)
    (settings : Settings) (source target : String) :
    CountsWritten place settings source target
      (Invocation.perform place ⟨settings, .stats source⟩)
      (Invocation.perform place ⟨settings, .classify source target⟩) := by
  unfold Invocation.perform
  cases hp : settings.profile with
  | error fault => exact countsWritten_of_code_one rfl rfl
  | ok profile =>
    dsimp only
    rw [perform, perform, withInput, withInput]
    cases hinput : place.path? source with
    | none => exact countsWritten_of_raised rfl rfl
    | some input =>
      dsimp only
      by_cases hmissing : place.disk input = .missing
      · rw [if_pos hmissing, if_pos hmissing]
        exact countsWritten_of_code_one rfl rfl
      · rw [if_neg hmissing, if_neg hmissing]
        exact countsWritten_of_there hlibrary hp hinput

/-- A one-way road, and a way about which nothing is said. -/
theorem statistics_count_written_of_two :
    let content := "way_id,tags\n" ++
      "1,\"\x7b\"\"highway\"\":\"\"road\"\",\"\"oneway\"\":\"\"1\"\"\x7d\"\n2,\n"
    let place : Place :=
      { working := ["data"]
        homes := fun _ => none
        disk := fun p => if p = ["data", "ways.csv"] then .file (.text content) else .missing
        library := Csv.library
        refusal? := fun _ _ => none }
    let counted := Invocation.perform place ⟨{}, .stats "ways.csv"⟩
    let classified := Invocation.perform place ⟨{}, .classify "ways.csv" "out.csv"⟩
    let text := "way_id,access,forward,backward\n1,routable,True,False\n2,skip,False,False\n"
    Csv.library.Lawful ∧ counted.exit = .code 0 ∧
      counted.printed = "Ways |W|=2\n  routable: 1\n  ferry: 0\n  skip: 1\n" ++
        "  mão única (bicicleta): 1\n" ∧
      classified.exit = .code 0 ∧ classified.written = some (["data", "out.csv"], .text text) ∧
      ∃ table lines, LinesOf table lines ∧ RecordsOf table lines text ∧ lines.length = 2 ∧
        (lines.countP fun fields => fields[1]? = some "routable") = 1 ∧
        (lines.countP fun fields => fields[2]? ≠ fields[3]?) = 1 ∧
        table.rows.countP (Classifier.leavesOneSense {} table.columns) = 1 := by
  intro content place counted classified text
  have hcounted : counted.exit = .code 0 ∧
      counted.printed = "Ways |W|=2\n  routable: 1\n  ferry: 0\n  skip: 1\n" ++
        "  mão única (bicicleta): 1\n" := by
    decide +kernel
  have hclassified : classified.exit = .code 0 ∧
      classified.written = some (["data", "out.csv"], .text text) := by
    decide +kernel
  have hone : counted.exit ≠ .code 1 := by
    rw [hcounted.1]
    decide
  have hraised : ∀ kind, counted.exit ≠ .raised kind := by
    rw [hcounted.1]
    nofun
  have hnone : ∀ fault, fault.OfInput → ¬ counted.FailsWith fault := by
    rintro fault - ⟨hexit, -⟩
    rw [hcounted.1] at hexit
    cases hexit
  obtain ⟨profile, -, -, table, lines, hprofile, -, -, -, hlines, -, -, honeway, hwritten⟩ :=
    (statistics_count_written place Csv.library_lawful {} "ways.csv" "out.csv").counts hone hraised
      hnone
  obtain rfl : Profile.bicycle {} = profile := Except.ok.inj hprofile
  rcases hwritten with ⟨output, stored, text', -, hstored, htext, hrecords, -⟩ | ⟨fault, -, hexit, -⟩
  · obtain ⟨rfl, rfl⟩ := Prod.mk.inj (Option.some.inj (hclassified.2.symm.trans hstored))
    obtain rfl := Option.some.inj htext
    -- The lines are those of the text, which holds no other ones.
    have hheld : Csv.Holds Csv.Bare (Csv.write [recordColumns, ["1", "routable", "True", "False"],
        ["2", "skip", "False", "False"]])
        [recordColumns, ["1", "routable", "True", "False"], ["2", "skip", "False", "False"]] :=
      Csv.holds_write (by decide)
    obtain rfl := (List.cons.inj (hrecords.only _ hheld)).2
    exact ⟨Csv.library_lawful, hcounted.1, hcounted.2, hclassified.1, hclassified.2, table, _, hlines,
      hrecords, rfl, rfl, rfl, honeway.symm⟩
  · rw [hclassified.1] at hexit
    cases hexit

end Command

end RoadAccess
