import RoadAccess.Json.Basic
import RoadAccess.Text.Blank
import RoadAccess.Text.Case
import RoadAccess.Text.Split

namespace RoadAccess

/-!
# Options of the bicycle profile

Options are written `key=value|key=value`.  Blanks around items, keys and values are dropped, an
item of blanks alone is passed over, and of an option that is given twice the last value counts.

* `Options.assignments` — the assignments that a text makes, or the first item that makes none;
* `Options.read` — the defaults changed by these assignments;
* `OptionFault` — why an item makes no assignment: the checks come in the order of its
  constructors.
-/

/-- The options of the bicycle profile. -/
structure Options where
  /-- Fords block the way. -/
  blockFords : Bool := false
  /-- The values for private access deny the way; otherwise they grant it. -/
  blockPrivate : Bool := true
  deriving DecidableEq, Repr

/-- The name of an option. -/
inductive OptionName where
  | blockFords
  | blockPrivate
  deriving DecidableEq, Repr

/-- Why an item of an options text is refused. -/
inductive OptionFault where
  /-- The item has no equals sign. -/
  | malformed (item : String)
  /-- The key names no option. -/
  | unknown (key : String)
  /-- The value is none of the words for true and false. -/
  | badValue (key value : String)
  deriving DecidableEq, Repr

/-- The message about a refused item. -/
def OptionFault.message : OptionFault → String
  | .malformed item => s!"Opção inválida: {Text.quoted item}. Esperado: chave=valor"
  | .unknown key =>
    s!"Opção desconhecida: {Text.quoted key}. Aceitas: block_fords, block_private"
  | .badValue key value => s!"Valor inválido para {key}: {Text.quoted value} (use true/false)"

namespace OptionName

/-- The option that a key names. -/
def ofKey? (key : String) : Option OptionName :=
  if key = "block_fords" then some .blockFords
  else if key = "block_private" then some .blockPrivate
  else none

/-- The key that names an option. -/
def key : OptionName → String
  | .blockFords => "block_fords"
  | .blockPrivate => "block_private"

@[simp] theorem ofKey?_key (name : OptionName) : ofKey? name.key = some name := by
  cases name <;> decide

end OptionName

namespace Options

/-- The words for true. -/
def trueWords : List String := ["true", "1", "yes", "on"]

/-- The words for false. -/
def falseWords : List String := ["false", "0", "no", "off"]

/-- The truth value that a word stands for, in any case. -/
def readWord? (word : String) : Option Bool :=
  if Text.lower word ∈ trueWords then some true
  else if Text.lower word ∈ falseWords then some false
  else none

/-- The assignment that an item makes. -/
def readItem (item : String) : Except OptionFault (OptionName × Bool) :=
  match Text.cut '=' item.toList with
  | none => .error (.malformed item)
  | some (key, value) =>
    let key := String.ofList (Text.stripChars key)
    let value := String.ofList (Text.stripChars value)
    match OptionName.ofKey? key with
    | none => .error (.unknown key)
    | some name =>
      match readWord? value with
      | none => .error (.badValue key value)
      | some b => .ok (name, b)

/-- The items of an options text: the stripped parts between bars, without the empty ones. -/
def items (s : String) : List String :=
  (((Text.pieces '|' s.toList).map Text.stripChars).filter (!·.isEmpty)).map String.ofList

/-- The assignments that a text makes. -/
def assignments (s : String) : Except OptionFault (List (OptionName × Bool)) :=
  (items s).mapM readItem

/-- The value of an option. -/
def get (o : Options) : OptionName → Bool
  | .blockFords => o.blockFords
  | .blockPrivate => o.blockPrivate

/-- The options with one of them changed. -/
def set (o : Options) : OptionName → Bool → Options
  | .blockFords, b => { o with blockFords := b }
  | .blockPrivate, b => { o with blockPrivate := b }

/-- The options with several of them changed, one after the other. -/
def assign (o : Options) (changes : List (OptionName × Bool)) : Options :=
  changes.foldl (fun o (name, b) => o.set name b) o

/-- The options that a text describes. -/
def read (s : String) : Except OptionFault Options := (assignments s).map (assign {})

/-- The options that a JSON value describes: the defaults for a value that says nothing; a value
    that says something has to be a text. -/
def ofJson? (v : Json) : Option (Except OptionFault Options) :=
  if v.truthy then
    match v with
    | .text s => some (read s)
    | _ => none
  else some (.ok {})

/-- What is set is what is then found. -/
@[simp] theorem get_set (o : Options) (name name' : OptionName) (b : Bool) :
    (o.set name b).get name' = if name' = name then b else o.get name' := by
  cases name <;> cases name' <;> rfl

end Options

end RoadAccess
