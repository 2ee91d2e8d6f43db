import RoadAccess.Text.DecimalDigit
import RoadAccess.Text.Split

namespace RoadAccess.Command

/-!
# Command-line words

How the words of a command line are told apart, and how options take their values.

* `OptionSpec` — an option that a command knows;
* `readWord` — what a word is: an option, or none.  An option may be cut short as long as only one
  begins so, and its value may be attached with an equals sign; negative numbers and words with a
  space in them are no options;
* `readWords` — what all the words are; after a word `--` there are no more options;
* `walk` — the options with their values, and the words that are none, in the places where a
  command takes them.
-/

/-- How a command line ends the program before it starts. -/
inductive Usage where
  /-- Help was asked for. -/
  | help
  /-- The words make no sense. -/
  | wrong
  deriving DecidableEq, Repr

/-- What an option does. -/
inductive OptionKind where
  /-- It asks for help. -/
  | help
  /-- It stands alone. -/
  | flag
  /-- It takes a value. -/
  | value
  deriving DecidableEq, Repr

/-- An option that a command knows. -/
structure OptionSpec where
  name : String
  kind : OptionKind
  deriving DecidableEq, Repr

/-- The option that asks for help, the only one with a short name. -/
def helpOption : OptionSpec := ⟨"--help", .help⟩

/-- The short name of the option that asks for help. -/
def shortHelp : String := "-h"

/-- What a word is. -/
inductive Word where
  /-- No option. -/
  | plain
  /-- The mark after which there are no options. -/
  | separator
  /-- An option, with the value attached to it by an equals sign. -/
  | known (spec : OptionSpec) (attached : Option String)
  /-- The short name of the option that asks for help, with the letters that follow it. -/
  | helpWith (letters : List Char)
  /-- An option that the command does not know. -/
  | unknown
  deriving DecidableEq, Repr

/-! ### Single words -/

/-- A word that reads as a negative number; a line feed may end it. -/
def isNegativeNumber (cs : List Char) : Bool :=
  match cs with
  | '-' :: cs =>
    let cs := if cs.getLast? = some '\n' then cs.dropLast else cs
    let whole := cs.takeWhile Text.isDecimalDigit
    match cs.dropWhile Text.isDecimalDigit with
    | [] => !whole.isEmpty
    | '.' :: places => !places.isEmpty && places.all Text.isDecimalDigit
    | _ => false
  | _ => false

/-- The option with exactly this name. -/
def exactOption? (specs : List OptionSpec) (name : String) : Option OptionSpec :=
  if name = shortHelp then some helpOption else specs.find? fun spec => spec.name = name

/-- The parts of a word around its first equals sign. -/
def attachment? (cs : List Char) : Option (String × String) :=
  (Text.cut '=' cs).map fun (name, value) => (String.ofList name, String.ofList value)

/-- What a word may be that is no full name of an option: an option whose name begins with the
    word, up to an equals sign, or the short name for help with more letters. -/
def candidates (specs : List OptionSpec) (cs : List Char) : List Word :=
  match cs with
  | '-' :: '-' :: _ =>
    let (beginning, attached) := match Text.cut '=' cs with
      | some (name, value) => (name, some (String.ofList value))
      | none => (cs, none)
    (specs.filter fun spec => beginning.isPrefixOf spec.name.toList).map
      fun spec => .known spec attached
  | '-' :: 'h' :: letters => [.helpWith letters]
  | _ => []

/-- What a word is that starts with a hyphen and is no full name of an option. -/
def readDashed (specs : List OptionSpec) (text : String) : Except Usage Word :=
  let cs := text.toList
  match candidates specs cs with
  | [word] => .ok word
  | _ :: _ :: _ => .error .wrong
  | [] => .ok (if isNegativeNumber cs || ' ' ∈ cs then .plain else .unknown)

/-- What a word is. -/
def readWord (specs : List OptionSpec) (text : String) : Except Usage Word :=
  match text.toList with
  | '-' :: _ =>
    match exactOption? specs text with
    | some spec => .ok (.known spec none)
    | none =>
      if text = "-" then .ok .plain
      else match attachment? text.toList with
        | none => readDashed specs text
        | some (name, value) =>
          match exactOption? specs name with
          | some spec => .ok (.known spec (some value))
          | none => readDashed specs text
  | _ => .ok .plain

/-- The words, each with what it is. -/
def readWords (specs : List OptionSpec) : List String → Except Usage (List (String × Word))
  | [] => .ok []
  | text :: rest =>
    if text = "--" then .ok ((text, .separator) :: rest.map (·, .plain))
    else do
      let word ← readWord specs text
      let words ← readWords specs rest
      return (text, word) :: words

/-! ### Options and their values -/

/-- Which words a command takes that are no options. -/
inductive Places where
  /-- None. -/
  | none
  /-- One run of words, which has not begun. -/
  | run
  /-- One run of words, which has begun. -/
  | inRun
  /-- The name of a command, with all that follows it. -/
  | command
  deriving DecidableEq, Repr

/-- What the words of a command come to. -/
structure Parsed where
  /-- The options with their values, the last one first; a flag has the empty value. -/
  options : List (String × String) := []
  /-- The words that are taken besides. -/
  taken : List String := []
  /-- Some word has no use. -/
  leftover : Bool := false
  deriving DecidableEq, Repr

namespace Parsed

/-- The last value of an option. -/
def value? (p : Parsed) (name : String) : Option String := p.options.lookup name

/-- The option was given. -/
def given (p : Parsed) (name : String) : Bool := (p.value? name).isSome

/-- One more option. -/
def add (p : Parsed) (spec : OptionSpec) (value : String) : Parsed :=
  { p with options := (spec.name, value) :: p.options }

end Parsed

/-- Asking for help with letters behind the short name: the name may be said again, and the first
    other letter ends the word, but a hyphen there, or an equals sign after the name, is wrong. -/
def helpWithLetters : List Char → Usage
  | 'h' :: '=' :: _ => .wrong
  | 'h' :: letters => helpWithLetters letters
  | '-' :: _ => .wrong
  | _ => .help

/-- Where words are taken after an option. -/
def Places.afterOption : Places → Places
  | .inRun => .none
  | places => places

/-- Goes through the words.  Asking for help ends this at once, and so does an option that lacks
    its value or has one that it does not take. -/
def walk (places : Places) (p : Parsed) : List (String × Word) → Except Usage Parsed
  | [] => .ok p
  | (text, word) :: rest =>
    match word with
    | .plain | .separator =>
      match places with
      | .none => walk .none { p with leftover := true } rest
      | .run | .inRun => walk .inRun { p with taken := p.taken ++ [text] } rest
      | .command => .ok { p with taken := text :: rest.map Prod.fst }
    | .unknown => walk places.afterOption { p with leftover := true } rest
    | .helpWith letters => .error (helpWithLetters letters)
    | .known spec attached =>
      match spec.kind, attached with
      | .help, none => .error .help
      | .help, some _ => .error .wrong
      | .flag, none => walk places.afterOption (p.add spec "") rest
      | .flag, some _ => .error .wrong
      | .value, some value => walk places.afterOption (p.add spec value) rest
      | .value, none =>
        match rest with
        | (value, .plain) :: rest => walk places.afterOption (p.add spec value) rest
        | _ => .error .wrong

/-- What the words of a command with these options and places come to. -/
def parseWords (specs : List OptionSpec) (places : Places) (words : List String) :
    Except Usage Parsed := do
  walk places {} (← readWords specs words)

end RoadAccess.Command
