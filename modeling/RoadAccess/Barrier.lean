import RoadAccess.Restriction

namespace RoadAccess.Profile

/-!
# Barriers

Whether a node stops a vehicle.  An explicit denial makes any node a barrier and an explicit
permission makes it none; where nothing is said, a locked node, a blocking kind of barrier, and a
ford if fords block, are barriers.
-/

/-- A node with these tags blocks the passage. -/
def isBarrier (p : Profile) (node : Tags) : Bool :=
  match p.restriction node with
  | .deny => true
  | .allow => false
  | .noMatch =>
    node.hasValue "locked" "yes" || node.hasAny "barrier" p.barriers ||
      (p.blockFords && node.hasValue "ford" "yes")

end RoadAccess.Profile
