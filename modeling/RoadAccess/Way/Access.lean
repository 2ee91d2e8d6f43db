import RoadAccess.Restriction

namespace RoadAccess

/-!
# Access to ways

Whether a way enters the network of a vehicle.

* `Access` — the way is routable, a ferry, or left out;
* `Profile.highwayAccess` — the rule for ways with a kind of highway;
* `Profile.otherAccess` — the rule for all other ways: platforms, piers, ferries;
* `Profile.access` — the two together.
-/

/-- How a way enters the network. -/
inductive Access where
  /-- As a common way. -/
  | routable
  /-- As a crossing by ferry, open in both senses. -/
  | ferry
  /-- Not at all. -/
  | skip
  deriving DecidableEq, Repr

/-- The word for an outcome. -/
def Access.word : Access → String
  | .routable => "routable"
  | .ferry => "ferry"
  | .skip => "skip"

namespace Profile

/-- The way is closed unless the vehicle's own tag grants it: a motorway, a motor road, or a ford
    if fords block. -/
def needsOwnPermission (p : Profile) (t : Tags) (highway : String) : Bool :=
  highway ∈ p.motorways || t.hasValue "motorroad" "yes" ||
    (p.blockFords && (highway = "ford" || t.has "ford"))

/-- Access to a way of this kind of highway.  Where a vehicle may be pushed it may go; the
    explicit restrictions come last. -/
def highwayAccess (p : Profile) (t : Tags) (highway : String) : Access :=
  if highway ∉ p.allowedHighways then .skip
  else if t.hasValue p.vehicle "dismount" then .routable
  else if !t.hasAny p.vehicle p.intended && p.needsOwnPermission t highway then .skip
  else if p.restriction t = .deny then .skip
  else .routable

/-- Access to a way without a kind of highway.  Platforms and piers are routable; otherwise an
    explicit restriction decides, and where nothing is said only a ferry is of use that is not for
    people on foot. -/
def otherAccess (p : Profile) (isFerry : Tags → Bool) (t : Tags) : Access :=
  if t.hasValue "railway" "platform" || t.hasValue "man_made" "pier" then .routable
  else match p.restriction t with
    | .deny => .skip
    | .allow => if isFerry t then .ferry else .routable
    | .noMatch => if isFerry t && !t.hasValue "foot" "yes" then .ferry else .skip

/-- Access to a way. -/
def access (p : Profile) (isFerry : Tags → Bool) (t : Tags) : Access :=
  match t.get? "highway" with
  | none => p.otherAccess isFerry t
  | some highway => p.highwayAccess t highway

end Profile

end RoadAccess
