import RoadAccess.Command.Grammar
import RoadAccess.Fault
import RoadAccess.Profile.Basic
import RoadAccess.Text.Case

namespace RoadAccess.Command

/-!
# Invocations

What a command line asks for.

* `Settings` — the options that come before the command;
* `Task` — the command with its own options;
* `Invocation.read` — the command line as a whole;
* `Settings.threshold` — which reports are shown;
* `Settings.profileOptions` — the options of the profile: those of the options text, changed by the
  flags, which count after it.
-/

/-- The options that come before the command. -/
structure Settings where
  /-- The level from which on reports are shown. -/
  logLevel : String := "INFO"
  /-- Fords block the way. -/
  blockFords : Bool := false
  /-- Private access is allowed. -/
  allowPrivate : Bool := false
  /-- The options of the profile as a text. -/
  options : Option String := none
  deriving DecidableEq, Repr

/-- A command with its own options. -/
inductive Task where
  /-- Classifies the ways of a file and writes the result to another. -/
  | classify (input output : String)
  /-- Counts the outcomes for the ways of a file. -/
  | stats (input : String)
  /-- Classifies one way. -/
  | way (tags : List String)
  deriving DecidableEq, Repr

/-- What a command line asks for. -/
structure Invocation where
  settings : Settings
  task : Task
  deriving DecidableEq, Repr

/-! ### Reading a command line -/

/-- An option that takes a value. -/
def valueOption (name : String) : OptionSpec := ⟨name, .value⟩

/-- An option that takes none. -/
def flagOption (name : String) : OptionSpec := ⟨name, .flag⟩

/-- The options that come before the command. -/
def settingsOptions : List OptionSpec :=
  [helpOption, valueOption "--log-level", flagOption "--block-fords", flagOption "--allow-private",
    valueOption "--options"]

/-- The words of a command whose words all have a use. -/
def parseAll (specs : List OptionSpec) (places : Places) (words : List String) :
    Except Usage Parsed := do
  let p ← parseWords specs places words
  if p.leftover then throw .wrong else return p

/-- The value of an option that has to be given. -/
def requiredValue (p : Parsed) (name : String) : Except Usage String :=
  match p.value? name with
  | some value => .ok value
  | none => .error .wrong

/-- The command of a given name with its own words.  Of the words of `way`, the first mark `--` is
    left out. -/
def readTask (name : String) (words : List String) : Except Usage Task := do
  match name with
  | "classify" =>
    let p ← parseAll [helpOption, valueOption "--in", valueOption "--out"] .none words
    return .classify (← requiredValue p "--in") (← requiredValue p "--out")
  | "stats" =>
    let p ← parseAll [helpOption, valueOption "--in"] .none words
    return .stats (← requiredValue p "--in")
  | "way" =>
    let p ← parseAll [helpOption] .run words
    return .way (p.taken.erase "--")
  | _ => throw .wrong

/-- The settings among the options before the command. -/
def settingsOf (p : Parsed) : Settings :=
  let s : Settings := {}
  { logLevel := (p.value? "--log-level").getD s.logLevel
    blockFords := p.given "--block-fords"
    allowPrivate := p.given "--allow-private"
    options := p.value? "--options" }

/-- What a command line asks for. -/
def Invocation.read (words : List String) : Except Usage Invocation := do
  let p ← parseWords settingsOptions .command words
  match p.taken with
  | [] => throw .wrong
  | name :: words =>
    let task ← readTask name words
    if p.leftover then throw .wrong
    return ⟨settingsOf p, task⟩

/-! ### Settings -/

/-- The names of levels, with the rank from which on reports are shown. -/
def levelRanks : List (String × Nat) :=
  [("DEBUG", 10), ("INFO", 20), ("WARN", 30), ("WARNING", 30), ("ERROR", 40), ("FATAL", 50),
    ("CRITICAL", 50), ("NOTSET", 0)]

/-- Names beside those of levels that are looked up too, with the error that their use as a level
    gives. -/
def otherNames : List (String × ErrorKind) := [("BASIC_FORMAT", .value), ("_STYLES", .type)]

/-- The rank from which on reports are shown; a level without a name is that of information. -/
def Settings.threshold (s : Settings) : Except ErrorKind Nat :=
  let name := Text.upper s.logLevel
  match otherNames.lookup name with
  | some kind => .error kind
  | none => .ok ((levelRanks.lookup name).getD 20)

/-- The options of the profile with the flags counted. -/
def Settings.applyFlags (s : Settings) (o : Options) : Options :=
  { blockFords := o.blockFords || s.blockFords
    blockPrivate := o.blockPrivate && !s.allowPrivate }

/-- The options of the profile. -/
def Settings.profileOptions (s : Settings) : Except OptionFault Options :=
  (Options.read (s.options.getD "")).map s.applyFlags

/-- The profile. -/
def Settings.profile (s : Settings) : Except OptionFault Profile :=
  s.profileOptions.map Profile.bicycle

end RoadAccess.Command
