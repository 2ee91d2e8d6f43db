import RoadAccess.Json.Basic
import RoadAccess.Keyed
import RoadAccess.Text.Blank
import RoadAccess.Text.Split

namespace RoadAccess

/-!
# Tags

The tags of a way or of a node: texts under keys, in the order in which they were given.

* `Tags.ofJson?` — the tags that a JSON value describes;
* `Tags.get?`, `Tags.has`, `Tags.hasValue`, `Tags.hasAny` — the whole value of a tag;
* `Tags.values` — the sub-values of a tag, between semicolons;
* `Tags.same` — equality of tags whatever their order.
-/

/-- The tags of a way or of a node. -/
structure Tags where
  /-- The keys with their values, in order. -/
  entries : List (String × String)
  deriving DecidableEq, Repr

namespace Tags

/-- No tags. -/
def empty : Tags := ⟨[]⟩

/-- The tags given by keys and values, the last value of a key counting. -/
def ofPairs (pairs : List (String × String)) : Tags := ⟨Keyed.putAll [] pairs⟩

/-- The tags given by the fields of an object, each value by its label. -/
def ofFields (fields : List (String × Json)) : Tags :=
  ofPairs (fields.map fun (k, v) => (k, v.label))

/-- The tags that a JSON value describes: a value that says nothing describes no tags, and of the
    others only objects describe any. -/
def ofJson? (v : Json) : Option Tags :=
  if v.truthy then
    match v with
    | .object fields => some (ofFields fields)
    | _ => none
  else some empty

/-! ### Whole values -/

/-- The value of a tag. -/
def get? (t : Tags) (key : String) : Option String := t.entries.lookup key

/-- The tag is there. -/
def has (t : Tags) (key : String) : Bool := (t.get? key).isSome

/-- The tag is there with this value. -/
def hasValue (t : Tags) (key value : String) : Bool := t.get? key = some value

/-- The tag is there with one of these values. -/
def hasAny (t : Tags) (key : String) (values : List String) : Bool :=
  (t.get? key).any fun v => v ∈ values

/-- One of the tags is there with one of these values. -/
def anyHasAny (t : Tags) (keys values : List String) : Bool :=
  keys.any fun key => t.hasAny key values

/-- One of the tags is there with this value. -/
def anyHasValue (t : Tags) (keys : List String) (value : String) : Bool :=
  keys.any fun key => t.hasValue key value

/-! ### Sub-values -/

/-- The sub-values of a value: the parts between semicolons, stripped, without the empty ones. -/
def subvalues (value : String) : List String :=
  (((Text.pieces ';' value.toList).map Text.stripChars).filter (!·.isEmpty)).map String.ofList

/-- The sub-values of a tag; none for a tag that is not there. -/
def values (t : Tags) (key : String) : List String :=
  match t.get? key with
  | some v => subvalues v
  | none => []

/-! ### Comparison -/

/-- The tags have the same keys with the same values, in any order. -/
def same (t u : Tags) : Bool :=
  t.entries.length = u.entries.length && t.entries.all fun (k, v) => u.get? k = some v

/-! ### Text -/

/-- The tags as a JSON object. -/
def toJson (t : Tags) : Json := .object (t.entries.map fun (k, v) => (k, .text v))

/-- The tags as messages show them. -/
def display (t : Tags) : String := "TagSet(" ++ t.toJson.display ++ ")"

/-! ### Laws -/

@[simp] theorem get?_empty (key : String) : empty.get? key = none := rfl

@[simp] theorem values_empty (key : String) : empty.values key = [] := rfl

/-- An object describes the tags of its fields. -/
theorem ofJson?_object (fields : List (String × Json)) :
    ofJson? (.object fields) = some (ofFields fields) := by
  cases fields <;> rfl

/-- A value describes no tags at all exactly when it says something and is no object. -/
theorem ofJson?_eq_none_iff (v : Json) :
    ofJson? v = none ↔ v.truthy = true ∧ ∀ fields, v ≠ .object fields := by
  cases v with
  | object fields => simp [ofJson?_object]
  | _ => simp [ofJson?]

end Tags

end RoadAccess
