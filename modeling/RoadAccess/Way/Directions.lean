import RoadAccess.Profile.Basic
import RoadAccess.Tags.Basic

namespace RoadAccess

/-!
# Directions of travel

In which senses a routable way is open to a vehicle.

* `Profile.isOneway` — some sign closes one of the senses;
* `Profile.isReopened` — some sign opens the closed sense again for the vehicle;
* `Profile.runsBackward` — the open sense is the one against the geometry;
* `Profile.directions` — the senses that are open;
* `directions_open` — at least one of them is.
-/

/-- The senses in which a way is open: along its geometry and against it. -/
structure Directions where
  forward : Bool
  backward : Bool
  deriving DecidableEq, Repr

/-- Open in both senses. -/
def Directions.both : Directions := ⟨true, true⟩

/-- Closed in both senses. -/
def Directions.closed : Directions := ⟨false, false⟩

namespace Profile

/-- The values of a one-way sign, in either sense. -/
def onewayValues : List String := ["yes", "true", "1", "-1"]

/-- The value of a one-way sign against the geometry. -/
def reverseOneway : String := "-1"

/-- Some sign closes one of the senses.  The general sign does not count where the vehicle's own
    tag grants the sense that it closes. -/
def isOneway (p : Profile) (t : Tags) : Bool :=
  let forwardGranted := t.hasAny p.forwardKey p.intended
  let backwardGranted := t.hasAny p.backwardKey p.intended
  let reverse := t.hasValue "oneway" reverseOneway
  (t.hasAny "oneway" onewayValues && !reverse && !backwardGranted) ||
    (reverse && !forwardGranted) ||
    t.hasAny p.onewayKey onewayValues ||
    t.anyHasAny p.sideOnewayKeys onewayValues ||
    (t.hasAny "vehicle:backward" p.restricted && !forwardGranted) ||
    (t.hasAny "vehicle:forward" p.restricted && !backwardGranted) ||
    t.hasAny p.forwardKey p.restricted ||
    t.hasAny p.backwardKey p.restricted

/-- Some sign opens the closed sense again for the vehicle. -/
def isReopened (p : Profile) (t : Tags) : Bool :=
  t.hasValue p.onewayKey "no" ||
    (t.has p.bothSidesKey && !t.hasValue p.bothSidesKey "no") ||
    t.anyHasAny p.oppositeLaneKeys p.oppositeLaneValues ||
    t.anyHasValue p.sideOnewayKeys "no"

/-- Of a way that is open in one sense only, that sense is the one against the geometry. -/
def runsBackward (p : Profile) (t : Tags) : Bool :=
  t.hasValue "oneway" reverseOneway ||
    t.hasValue p.onewayKey reverseOneway ||
    t.anyHasValue p.sideOnewayKeys reverseOneway ||
    t.hasAny "vehicle:forward" p.restricted ||
    t.hasAny p.forwardKey p.restricted

/-- The senses in which a routable way is open.  A roundabout is open in one sense only. -/
def directions (p : Profile) (t : Tags) (roundabout : Bool) : Directions :=
  if (p.isOneway t || roundabout) && !p.isReopened t then
    ⟨!p.runsBackward t, p.runsBackward t⟩
  else .both

/-- A routable way is open in at least one sense. -/
theorem directions_open (p : Profile) (t : Tags) (roundabout : Bool) :
    (p.directions t roundabout).forward = true ∨ (p.directions t roundabout).backward = true := by
  unfold directions
  split
  · cases p.runsBackward t <;> simp
  · exact .inl rfl

end Profile

end RoadAccess
