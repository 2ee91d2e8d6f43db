import RoadAccess.Binary64.Shortest
import RoadAccess.Text.Quoted

namespace RoadAccess

/-!
# JSON values

Tags, node lists and table cells come as JSON values of any kind.

* `Json.truthy` — whether a value says anything: null, false, zeros and empty texts, lists and
  objects do not;
* `Json.display` — the text that shows a value in messages, with its texts quoted;
* `Json.label` — the text that stands for a value as a tag: a text is its own label, any other
  value is displayed.
-/

/-- A JSON value.  A number with a point or an exponent is `real`, any other number `int`; the
    fields of an object keep their order. -/
inductive Json where
  | null
  | bool (value : Bool)
  | int (value : Int)
  | real (value : Binary64)
  | text (value : String)
  | array (items : List Json)
  | object (fields : List (String × Json))

namespace Json

instance : Inhabited Json := ⟨.null⟩

/-- A value that says something: all but null, false, the zeros and the empty texts, lists and
    objects. -/
def truthy : Json → Bool
  | .null => false
  | .bool b => b
  | .int n => n ≠ 0
  | .real x => !x.isZero
  | .text s => s ≠ ""
  | .array items => !items.isEmpty
  | .object fields => !fields.isEmpty

/-! ### Texts of values -/

/-- The text of a truth value. -/
def boolText (b : Bool) : String := if b then "True" else "False"

mutual

/-- A value as messages show it, with its texts quoted. -/
def display : Json → String
  | .null => "None"
  | .bool b => boolText b
  | .int n => toString n
  | .real x => x.toText
  | .text s => Text.quoted s
  | .array items => "[" ++ displayItems items ++ "]"
  | .object fields => "\x7b" ++ displayFields fields ++ "\x7d"

/-- The items of a list, between commas. -/
def displayItems : List Json → String
  | [] => ""
  | [v] => display v
  | v :: vs => display v ++ ", " ++ displayItems vs

/-- The fields of an object, between commas. -/
def displayFields : List (String × Json) → String
  | [] => ""
  | [(k, v)] => Text.quoted k ++ ": " ++ display v
  | (k, v) :: fs => Text.quoted k ++ ": " ++ display v ++ ", " ++ displayFields fs

end

/-- The text that stands for a value: a text is its own label. -/
def label : Json → String
  | .text s => s
  | v => v.display

@[simp] theorem label_text (s : String) : (Json.text s).label = s := rfl

@[simp] theorem truthy_object (fields : List (String × Json)) :
    (Json.object fields).truthy = !fields.isEmpty := rfl

@[simp] theorem truthy_array (items : List Json) : (Json.array items).truthy = !items.isEmpty := rfl

end Json

end RoadAccess
