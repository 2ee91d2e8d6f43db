import RoadAccess.Profile.Options

namespace RoadAccess

/-!
# Access profiles

What a class of vehicles may use, and which tags say so.

* `Profile` — the vocabulary of a vehicle class; fields of type `List String` that are said to be
  sets are used only through membership;
* `Profile.bicycle` — the profile of bicycles under given options;
* `Profile.same` — equality of profiles, sets compared as sets.
-/

/-- The access profile of a class of vehicles. -/
structure Profile where
  /-- The key of the vehicle itself. -/
  vehicle : String
  /-- The keys that can deny or grant access, the most specific one first. -/
  restrictionKeys : List String
  /-- The set of values that deny access. -/
  restricted : List String
  /-- The set of values that grant access. -/
  intended : List String
  /-- The set of usable kinds of highway. -/
  allowedHighways : List String
  /-- The set of kinds of highway that are usable only where the vehicle's own tag grants it. -/
  motorways : List String := ["motorway", "motorway_link"]
  /-- The set of kinds of barrier that block the passage. -/
  barriers : List String := ["fence"]
  /-- Fords block the way. -/
  blockFords : Bool := false
  /-- The keys of the one-way signs of lanes beside the road. -/
  sideOnewayKeys : List String := ["cycleway:left:oneway", "cycleway:right:oneway"]
  /-- The keys under which a lane against the traffic is found. -/
  oppositeLaneKeys : List String := ["cycleway", "cycleway:left", "cycleway:right"]
  /-- The set of kinds of lane against the traffic. -/
  oppositeLaneValues : List String := ["opposite", "opposite_lane", "opposite_track"]
  /-- The key of lanes on both sides. -/
  bothSidesKey : String := "cycleway:both"
  deriving DecidableEq, Repr

namespace Profile

/-! ### Keys made from the vehicle's -/

/-- The key of one-way rules for the vehicle. -/
def onewayKey (p : Profile) : String := "oneway:" ++ p.vehicle

/-- The key of rules for the vehicle in the sense of the geometry. -/
def forwardKey (p : Profile) : String := p.vehicle ++ ":forward"

/-- The key of rules for the vehicle against the sense of the geometry. -/
def backwardKey (p : Profile) : String := p.vehicle ++ ":backward"

/-! ### Bicycles -/

/-- The values that deny access whatever the options. -/
def publicRestrictions : List String :=
  ["no", "restricted", "military", "emergency", "agricultural", "forestry", "delivery"]

/-- The values for private access. -/
def privateValues : List String := ["private", "permit"]

/-- The values that grant access whatever the options. -/
def publicIntentions : List String :=
  ["yes", "designated", "official", "permissive", "destination"]

/-- The kinds of highway that bicycles can use. -/
def bicycleHighways : List String :=
  ["living_street", "steps", "cycleway", "path", "footway", "platform", "pedestrian", "track",
    "service", "residential", "unclassified", "road", "bridleway", "motorway", "motorway_link",
    "trunk", "trunk_link", "primary", "primary_link", "secondary", "secondary_link", "tertiary",
    "tertiary_link"]

/-- The profile of bicycles. -/
def bicycle (o : Options) : Profile where
  vehicle := "bicycle"
  restrictionKeys := ["bicycle", "vehicle", "access"]
  restricted := if o.blockPrivate then publicRestrictions ++ privateValues else publicRestrictions
  intended := if o.blockPrivate then publicIntentions else publicIntentions ++ privateValues
  allowedHighways := bicycleHighways
  blockFords := o.blockFords

/-! ### Comparison -/

/-- Two lists with the same members. -/
def sameSet (as bs : List String) : Bool := as.all (· ∈ bs) && bs.all (· ∈ as)

/-- Profiles with the same keys, in order, and the same sets. -/
def same (p q : Profile) : Bool :=
  p.vehicle = q.vehicle && p.restrictionKeys = q.restrictionKeys &&
    sameSet p.restricted q.restricted && sameSet p.intended q.intended &&
    sameSet p.allowedHighways q.allowedHighways && sameSet p.motorways q.motorways &&
    sameSet p.barriers q.barriers && p.blockFords = q.blockFords &&
    p.sideOnewayKeys = q.sideOnewayKeys && p.oppositeLaneKeys = q.oppositeLaneKeys &&
    sameSet p.oppositeLaneValues q.oppositeLaneValues && p.bothSidesKey = q.bothSidesKey

end Profile

end RoadAccess
