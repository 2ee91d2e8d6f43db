import RoadAccess.Json.Basic

namespace RoadAccess

/-!
# Identifiers

Edges of a flag table and nodes of a graph are identified by simple values and by tuples of them.

* `Identifier.decideEq` — identifiers are compared by value; one and the same number has one form, so
  a real number that is whole stands as that integer;
* `Identifier.hashable` — an object identifies nothing, and neither does a tuple with an object
  in it;
* `Identifier.label` — the identifier in a message.
-/

/-- An identifier of an edge or a node.  Of an object only the text is kept that shows it. -/
inductive Identifier where
  | null
  | int (value : Int)
  | real (value : Binary64)
  | text (value : String)
  | tuple (items : List Identifier)
  | record (shown : String)

namespace Identifier

instance : Inhabited Identifier := ⟨.null⟩

mutual

/-- Equality of identifiers can be decided. -/
def decideEq : (a b : Identifier) → Decidable (a = b)
  | .null, .null => .isTrue rfl
  | .int m, .int n => decidable_of_iff (m = n) (by simp)
  | .real x, .real y => decidable_of_iff (x = y) (by simp)
  | .text s, .text t => decidable_of_iff (s = t) (by simp)
  | .tuple as, .tuple bs =>
    match decideEqList as bs with
    | .isTrue h => .isTrue (h ▸ rfl)
    | .isFalse h => .isFalse fun e => h (tuple.inj e)
  | .record s, .record t => decidable_of_iff (s = t) (by simp)
  | .null, .int _ | .null, .real _ | .null, .text _ | .null, .tuple _ | .null, .record _
  | .int _, .null | .int _, .real _ | .int _, .text _ | .int _, .tuple _ | .int _, .record _
  | .real _, .null | .real _, .int _ | .real _, .text _ | .real _, .tuple _ | .real _, .record _
  | .text _, .null | .text _, .int _ | .text _, .real _ | .text _, .tuple _ | .text _, .record _
  | .tuple _, .null | .tuple _, .int _ | .tuple _, .real _ | .tuple _, .text _
  | .tuple _, .record _
  | .record _, .null | .record _, .int _ | .record _, .real _ | .record _, .text _
  | .record _, .tuple _ => .isFalse nofun

/-- Equality of lists of identifiers can be decided. -/
def decideEqList : (as bs : List Identifier) → Decidable (as = bs)
  | [], [] => .isTrue rfl
  | [], _ :: _ => .isFalse nofun
  | _ :: _, [] => .isFalse nofun
  | a :: as, b :: bs =>
    match decideEq a b, decideEqList as bs with
    | .isTrue h, .isTrue hs => .isTrue (h ▸ hs ▸ rfl)
    | .isFalse h, _ => .isFalse fun e => h (List.cons.inj e).1
    | _, .isFalse hs => .isFalse fun e => hs (List.cons.inj e).2

end

instance : DecidableEq Identifier := decideEq

mutual

/-- An identifier that a table can hold. -/
def hashable : Identifier → Bool
  | .tuple items => allHashable items
  | .record _ => false
  | _ => true

/-- Identifiers that a table can hold. -/
def allHashable : List Identifier → Bool
  | [] => true
  | a :: as => hashable a && allHashable as

end

/-! ### Text -/

mutual

/-- An identifier as messages show it inside a tuple. -/
def display : Identifier → String
  | .null => "None"
  | .int n => toString n
  | .real x => x.toText
  | .text s => Text.quoted s
  | .tuple [a] => "(" ++ display a ++ ",)"
  | .tuple items => "(" ++ displayItems items ++ ")"
  | .record shown => shown

/-- Identifiers between commas. -/
def displayItems : List Identifier → String
  | [] => ""
  | [a] => display a
  | a :: as => display a ++ ", " ++ displayItems as

end

/-- An identifier as messages show it: a text as it is, all else displayed. -/
def label : Identifier → String
  | .text s => s
  | a => a.display

end Identifier

end RoadAccess
