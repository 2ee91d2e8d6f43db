import RoadAccess.Tags.Basic

namespace RoadAccess.Tags

/-!
# Ferries and roundabouts

What the tags of a way say about its kind.
-/

/-- The kinds of route that are served by a ferry. -/
def ferryRoutes : List String := ["ferry", "shuttle_train"]

/-- The kinds of junction that are driven around in one sense. -/
def roundaboutJunctions : List String := ["roundabout", "circular"]

/-- A ferry: a route of such a kind that is not itself denied. -/
def isFerry (t : Tags) : Bool :=
  t.hasAny "route" ferryRoutes && !t.hasValue "ferry" "no" && !t.hasValue "shuttle_train" "no"

/-- A part of a roundabout. -/
def isRoundabout (t : Tags) : Bool := t.hasAny "junction" roundaboutJunctions

end RoadAccess.Tags
