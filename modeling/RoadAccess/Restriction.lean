import RoadAccess.Profile.Basic
import RoadAccess.Tags.Basic

namespace RoadAccess

/-!
# Explicit restrictions

The restriction keys of a profile are asked in order, the most specific one first.  The first key
with a sub-value decides: a denying sub-value denies, otherwise a granting one grants, otherwise
nothing is said; less specific keys are not asked any more.
-/

/-- What the restriction keys say. -/
inductive Restriction where
  | deny
  | allow
  | noMatch
  deriving DecidableEq, Repr

/-- The word for an outcome. -/
def Restriction.word : Restriction → String
  | .deny => "deny"
  | .allow => "allow"
  | .noMatch => "no_match"

namespace Profile

/-- What the sub-values of one key say: a denial counts before a permission. -/
def judge (p : Profile) (values : List String) : Restriction :=
  if values.any (· ∈ p.restricted) then .deny
  else if values.any (· ∈ p.intended) then .allow
  else .noMatch

/-- What the first of these keys that has a sub-value says. -/
def restrictionAmong (p : Profile) (t : Tags) : List String → Restriction
  | [] => .noMatch
  | key :: keys =>
    match t.values key with
    | [] => p.restrictionAmong t keys
    | values => p.judge values

/-- What the restriction keys say about a way or a node. -/
def restriction (p : Profile) (t : Tags) : Restriction := p.restrictionAmong t p.restrictionKeys

/-- A key without sub-values is passed over. -/
theorem restrictionAmong_cons_of_nil (p : Profile) (t : Tags) {key : String} (keys : List String)
    (h : t.values key = []) : p.restrictionAmong t (key :: keys) = p.restrictionAmong t keys := by
  rw [restrictionAmong, h]

/-- A key with sub-values decides. -/
theorem restrictionAmong_cons_of_ne_nil (p : Profile) (t : Tags) {key : String}
    (keys : List String) (h : t.values key ≠ []) :
    p.restrictionAmong t (key :: keys) = p.judge (t.values key) := by
  rw [restrictionAmong]
  split
  · contradiction
  · rfl

end Profile

end RoadAccess
