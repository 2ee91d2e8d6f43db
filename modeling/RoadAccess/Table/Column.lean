import RoadAccess.Json.Basic

namespace RoadAccess

/-!
# Columns of values

A table that is made of values keeps each of its columns in one type.  So what a value comes out as may
depend on the other values of its column.

* `Json.Mixed` — values of which some may change, because they have no type in common;
* `ColumnRule` — what the values of a column come out as; `ColumnRule.Lawful` — what is known of such
  a rule;
* `ColumnRule.inferred` — the rule by which numbers become real numbers among real numbers, and where
  values are missing.
-/

/-- The values have no type in common: some say nothing and others do, or there are integers beside
    real numbers. -/
def Json.Mixed (vs : List Json) : Prop :=
  (.null ∈ vs ∧ ∃ v ∈ vs, v ≠ .null) ∨ (∃ n, .int n ∈ vs) ∧ ∃ x, .real x ∈ vs

/-- What the values of a column come out as. -/
abbrev ColumnRule := List Json → List Json

namespace ColumnRule

/-- No value gets lost, and values that have a type in common stay what they are. -/
structure Lawful (rule : ColumnRule) : Prop where
  length_eq : ∀ vs, (rule vs).length = vs.length
  kept : ∀ vs, ¬ Json.Mixed vs → rule vs = vs

/-! ### Numbers -/

/-- A value for which a number can stand: a number, or nothing. -/
def isNumeric : Json → Bool
  | .null | .int _ | .real _ => true
  | _ => false

def isNull : Json → Bool
  | .null => true
  | _ => false

def isInt : Json → Bool
  | .int _ => true
  | _ => false

def isReal : Json → Bool
  | .real _ => true
  | _ => false

/-- The real number that stands for a value. -/
def toReal : Json → Json
  | .null => .real .nan
  | .int n => .real (Binary64.ofRatio (n < 0) n.natAbs 1)
  | v => v

/-- The value is no integer outside these bounds. -/
def within (low high : Int) : Json → Bool
  | .int n => low ≤ n ∧ n < high
  | _ => true

/-- All integers fit into 64 bits, with or without a sign. -/
def fits (vs : List Json) : Bool :=
  vs.all (within (-0x8000000000000000) 0x8000000000000000) || vs.all (within 0 0x10000000000000000)

/-- Numbers become real numbers if one of them is, or if one is missing. -/
def inferred : ColumnRule := fun vs =>
  if vs.all isNumeric && (vs.any isReal || vs.any isInt && vs.any isNull) && fits vs then
    vs.map toReal
  else vs

end ColumnRule

end RoadAccess
