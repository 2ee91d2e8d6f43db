import RoadAccess.Command.Invocation
import RoadAccess.Command.Library
import RoadAccess.Table.Classification
import RoadAccess.Tags.Pairs

namespace RoadAccess.Command

/-!
# Running a command

A run depends on what the command line asks for and on the place where it runs: what stands on the disk
there, which library reads and writes tables, and which texts standard output takes.  Step by step it
reports, prints and writes, at most one file, until it ends or something fails.

* `Work` — what a step leaves behind; `report`, `print`, `readTable`, `save` — the steps;
* `classify`, `stats`, `way` — the commands;
* `run` — a command line from its words to its result: code 0 for success, 1 for options or words
  that make no sense and for an input that is not there, 2 for a table that cannot be read,
  classified or written, or a text that cannot be printed.  An error that nothing catches ends the run
  without a code.
-/

/-- Why a command cannot be carried out to its end. -/
inductive WorkFault where
  /-- A word for a tag is no pair. -/
  | badPair (fault : Tags.MalformedPair)
  /-- The output is in the home directory of a user who has none. -/
  | noHome
  | inputIsDirectory
  /-- The library finds no table in the input. -/
  | unread (kind : ErrorKind)
  | table (fault : TableFault)
  | write (fault : WriteFault)
  /-- The library cannot write the table. -/
  | unwritten (kind : ErrorKind)
  /-- Standard output does not take a text. -/
  | refused (error : Raised)
  deriving DecidableEq, Repr

/-- The kind of error that a fault is. -/
def WorkFault.kind : WorkFault → ErrorKind
  | .badPair _ => .value
  | .noHome => .runtime
  | .inputIsDirectory => .isDirectory
  | .unread kind | .unwritten kind => kind
  | .table fault => fault.kind
  | .write fault => fault.kind
  | .refused error => error.kind

/-- A report of a run. -/
inductive Report where
  | classification (event : Event)
  | reading (path : Path)
  | writing (path : Path)
  | finished
  | badOptions (fault : OptionFault)
  | badPair (fault : Tags.MalformedPair)
  | refused (error : Raised)
  | noInput (path : Path)
  | failed (fault : WorkFault)

namespace Report

/-- The level of a report. -/
def level : Report → Level
  | .classification event => event.level
  | .reading _ | .writing _ | .finished => .info
  | .badOptions _ | .badPair _ | .refused _ | .noInput _ | .failed _ => .error

/-- The message of a report; that of a failure leaves a place for its cause. -/
def message : Report → String
  | .classification event => event.message
  | .reading path => "Lendo ways de " ++ path.toText
  | .writing path => "Gravando CSV de acesso em " ++ path.toText
  | .finished => "Concluído."
  | .badOptions fault => "Configuração inválida: " ++ fault.message
  | .badPair fault => fault.message
  | .refused error => error.text
  | .noInput path => "Arquivo de entrada não existe: " ++ path.toText
  | .failed _ => "Falha ao classificar ways: %s"

end Report

/-- Where a run takes place. -/
structure Place where
  /-- The working directory. -/
  working : Path
  /-- The home directories of users, and under the empty name that of whoever runs the program. -/
  homes : String → Option Path
  disk : Disk
  library : TableLibrary
  /-- Why standard output does not take a text behind what it has taken, if so. -/
  refusal? : (printed text : String) → Option Raised

/-- The path that a word names, if it does not lead into the home directory of a user without one. -/
def Place.path? (place : Place) (text : String) : Option Path :=
  Path.ofText place.working place.homes text

/-! ### Steps -/

/-- What a run has done so far. -/
structure Traces where
  /-- The text printed. -/
  printed : String := ""
  /-- The file that is written, with its content. -/
  written : Option (Path × Content) := none
  deriving DecidableEq, Repr

/-- What a step of a run leaves behind. -/
abbrev Work := Outcome WorkFault Report Traces

/-- Reports something. -/
def report (t : Traces) (r : Report) : Work Unit := ⟨t, [r], .ok ()⟩

/-- Prints a text. -/
def print (place : Place) (t : Traces) (text : String) : Work Unit :=
  match place.refusal? t.printed text with
  | some error => .fail t (.refused error)
  | none => .pure { t with printed := t.printed ++ text } ()

/-- Prints texts one after the other. -/
def printAll (place : Place) (t : Traces) : List String → Work Unit
  | [] => .pure t ()
  | text :: texts => (print place t text).andThen fun t _ => printAll place t texts

/-- The table of ways in a file. -/
def readTable (place : Place) (path : Path) : Except WorkFault WayTable :=
  match place.disk path with
  | .file content => (place.library.read path content).mapError .unread
  | _ => .error .inputIsDirectory

/-- Classifies the ways of a file. -/
def classifyFile (c : Classifier) (place : Place) (t : Traces) (path : Path) :
    Work (List WayRecord) :=
  match readTable place path with
  | .error fault => .fail t fault
  | .ok table =>
    let o := c.classifyFrame place.library.column table
    ⟨t, o.events.map .classification, o.result.mapError .table⟩

/-- Writes a table to a file. -/
def save (place : Place) (t : Traces) (path : Path) (table : WayTable) : Work Unit :=
  match place.disk.writeFault? path with
  | some fault => .fail t (.write fault)
  | none =>
    match place.library.write path table with
    | .error kind => .fail t (.unwritten kind)
    | .ok content => .pure { t with written := some (path, content) } ()

/-! ### Tables of classified ways -/

/-- The columns of a table of classified ways. -/
def recordColumns : List String := ["way_id", "access", "forward", "backward"]

/-- A classified way as a row of a table. -/
def recordRow (r : WayRecord) : List Json :=
  [r.way, .text r.access.word, .bool r.directions.forward, .bool r.directions.backward]

/-- The table of classified ways. -/
def recordTable (records : List WayRecord) : WayTable := ⟨recordColumns, records.map recordRow⟩

/-- The text with which a classification ends. -/
def closingText (records : List WayRecord) (output : Path) : String :=
  s!"Ways classificadas: {records.length} -> {output.toText}\n"

/-- Classifies the ways of a file and writes the result to another, if there is a path for it. -/
def classify (c : Classifier) (place : Place) (input : Path) : (output : Option Path) → Work Unit
  | none => .fail {} .noHome
  | some output =>
    (report {} (.reading input)).andThen fun t _ =>
    (classifyFile c place t input).andThen fun t records =>
    (report t (.writing output)).andThen fun t _ =>
    (save place t output (recordTable records)).andThen fun t _ =>
    print place t (closingText records output)

/-! ### Statistics -/

/-- How many ways there are, in all and by outcome. -/
structure Statistics where
  total : Nat
  routable : Nat
  ferry : Nat
  skip : Nat
  /-- The routable ways that are open in one sense and closed in the other. -/
  oneway : Nat
  deriving DecidableEq, Repr

/-- The numbers of ways among classified ones. -/
def Statistics.ofRecords (records : List WayRecord) : Statistics :=
  let count (a : Access) := records.countP fun r => r.access = a
  { total := records.length
    routable := count .routable
    ferry := count .ferry
    skip := count .skip
    oneway := records.countP fun r =>
      r.access = .routable ∧ r.directions.forward ≠ r.directions.backward }

/-- The lines in which statistics are printed. -/
def Statistics.lines (s : Statistics) : List String :=
  [s!"Ways |W|={s.total}\n", s!"  routable: {s.routable}\n", s!"  ferry: {s.ferry}\n",
    s!"  skip: {s.skip}\n", s!"  mão única (bicicleta): {s.oneway}\n"]

/-- Counts the outcomes for the ways of a file. -/
def stats (c : Classifier) (place : Place) (input : Path) : Work Unit :=
  (classifyFile c place {} input).andThen fun t records =>
    printAll place t (Statistics.ofRecords records).lines

/-! ### Results -/

/-- How a run ends. -/
inductive Exit where
  | code (code : Nat)
  /-- With an error that nothing catches. -/
  | raised (kind : ErrorKind)
  deriving DecidableEq, Repr

/-- What a run comes to. -/
structure Result where
  exit : Exit
  /-- The text printed. -/
  printed : String := ""
  /-- The reports that are shown, in order. -/
  reports : List Report := []
  /-- The file that is written, with its content. -/
  written : Option (Path × Content) := none

namespace Result

/-- The result of a run that ends after these steps. -/
def ofWork {α : Type} (o : Work α) (exit : Exit) (last : List Report) : Result :=
  { exit, printed := o.state.printed, reports := o.events ++ last, written := o.state.written }

/-- A run that ends before it does anything, with a report. -/
def refuse (r : Report) : Result := { exit := .code 1, reports := [r] }

/-- The result of a command that works on a file: whatever fails is caught. -/
def ofFileWork (o : Work Unit) : Result :=
  match o.result with
  | .ok () => .ofWork o (.code 0) [.finished]
  | .error fault => .ofWork o (.code 2) [.failed fault]

end Result

/-! ### Single ways -/

/-- A classified way as it is printed. -/
def wayText (access : Access) (d : Directions) : String :=
  s!"access={access.word} forward={Json.boolText d.forward} backward={Json.boolText d.backward}\n"

/-- Classifies one way given by pairs. -/
def wayWork (c : Classifier) (place : Place) (pairs : List String) : Work Unit :=
  match Tags.readPairs pairs with
  | .error fault => .fail {} (.badPair fault)
  | .ok tags =>
    let o := c.classifyWay FlagTable.empty (Identifier.int 0) tags .null
    let classified : Work (Access × Directions) :=
      ⟨{}, o.events.map .classification, o.result.mapError fun fault => .table (.unhandled fault)⟩
    classified.andThen fun t (access, d) => print place t (wayText access d)

/-- The result of classifying one way: of all errors only those of values are caught. -/
def way (c : Classifier) (place : Place) (pairs : List String) : Result :=
  let o := wayWork c place pairs
  match o.result with
  | .ok () => .ofWork o (.code 0) []
  | .error (.badPair fault) => .ofWork o (.code 1) [.badPair fault]
  | .error (.refused error) =>
    if error.kind.isValue then .ofWork o (.code 1) [.refused error]
    else .ofWork o (.raised error.kind) []
  | .error fault => .ofWork o (.raised fault.kind) []

/-! ### Runs -/

/-- Works on a file that has to be there. -/
def withInput (place : Place) (input : String) (work : Path → Work Unit) : Result :=
  match place.path? input with
  | none => { exit := .raised .runtime }
  | some path =>
    if place.disk path = .missing then .refuse (.noInput path) else .ofFileWork (work path)

/-- Runs a command with a classifier. -/
def perform (place : Place) (c : Classifier) : Task → Result
  | .way pairs => way c place pairs
  | .classify input output =>
    withInput place input fun path => classify c place path (place.path? output)
  | .stats input => withInput place input (stats c place)

/-- Runs what a command line asks for, with all reports. -/
def Invocation.perform (place : Place) (i : Invocation) : Result :=
  match i.settings.profile with
  | .error fault => .refuse (.badOptions fault)
  | .ok profile => Command.perform place { profile } i.task

/-- Runs a command line and shows the reports that it asks for. -/
def run (place : Place) (words : List String) : Except Usage Result := do
  let i ← Invocation.read words
  match i.settings.threshold with
  | .error kind => return { exit := .raised kind }
  | .ok rank =>
    let r := i.perform place
    return { r with reports := r.reports.filter fun report => rank ≤ report.level.rank }

end RoadAccess.Command
