import RoadAccess.Barrier
import RoadAccess.Edge.Flags
import RoadAccess.Event
import RoadAccess.Outcome
import RoadAccess.Tags.Route
import RoadAccess.Way.Directions

namespace RoadAccess

/-!
# Classifying the ways of edges

A way is classified by its tags, and the senses in which it is open are written to the flags of
its edge.

* `Classifier` — a profile, a ferry predicate, and the keys of the flags;
* `Classifier.openings` — the senses in which the way of an edge is open;
* `Classifier.block` — closes an edge if a node is a barrier;
* `Classifier.handle` — classifies a way and writes the flags of its edge.  A way that stays out
  writes nothing; an edge that stands for a point barrier is closed again if its first node
  blocks;
* `Classifier.classifyWay` — the same for an edge about which nothing is known but the way's tags.
-/

/-- What ways are classified by. -/
structure Classifier where
  profile : Profile := .bicycle {}
  isFerry : Tags → Bool := Tags.isFerry
  /-- The key of the access flags, one for each sense. -/
  accessKey : String := "bike_access"
  /-- The key of the roundabout flag, read in the sense of the geometry. -/
  roundaboutKey : String := "roundabout"

namespace Classifier

variable {σ ε : Type} [FlagStore σ ε]

/-- The tag of edges that stand for a point barrier. -/
def barrierEdgeTag : String := "barrier_edge"

/-- The access to a way. -/
def access (c : Classifier) (t : Tags) : Access := c.profile.access c.isFerry t

/-- The slot of the access flag for a sense. -/
def accessSlot (c : Classifier) (edge : ε) (reverse : Bool) : Slot ε :=
  ⟨c.accessKey, edge, reverse⟩

/-- The slot of the roundabout flag. -/
def roundaboutSlot (c : Classifier) (edge : ε) : Slot ε := ⟨c.roundaboutKey, edge, false⟩

/-- The store with both access flags of an edge written. -/
def mark (c : Classifier) (s : σ) (edge : ε) (d : Directions) : σ :=
  FlagStore.set (FlagStore.set s (c.accessSlot edge false) d.forward) (c.accessSlot edge true)
    d.backward

/-- The access flags of an edge. -/
def marked (c : Classifier) (s : σ) (edge : ε) : Directions :=
  ⟨FlagStore.get s (c.accessSlot edge false), FlagStore.get s (c.accessSlot edge true)⟩

/-- The senses in which a way of the network is open: a ferry in both, a routable way by its tags
    and by the roundabout flag of its edge. -/
def openings (c : Classifier) (s : σ) (edge : ε) (t : Tags) : Access → Directions
  | .routable => c.profile.directions t (FlagStore.get s (c.roundaboutSlot edge))
  | _ => .both

/-- Closes an edge in both senses if the node is a barrier. -/
def block (c : Classifier) (s : σ) (edge : ε) (node : Json) : Outcome Fault Event σ Unit :=
  match Tags.ofJson? node with
  | none => .fail s .tagsNotObject
  | some tags =>
    if c.profile.isBarrier tags then
      let report := [Event.blocked (FlagStore.label σ edge) node]
      match FlagStore.fault? s edge with
      | some f => ⟨s, report, .error f⟩
      | none => ⟨c.mark s edge .closed, report, .ok ()⟩
    else .pure s ()

/-- The first of the nodes of an edge, if there are any. -/
def firstNode? (nodes : Json) : Except Fault (Option Json) :=
  if nodes.truthy then
    match nodes with
    | .array (node :: _) => .ok (some node)
    | .text s => .ok (s.toList.head?.map fun c => .text c.toString)
    | .object _ => .error .nodesKeyed
    | _ => .error .nodesNotIndexable
  else .ok none

/-- Closes an edge that stands for a point barrier if its first node is one. -/
def blockFirst (c : Classifier) (s : σ) (edge : ε) (t : Tags) (nodes : Json) :
    Outcome Fault Event σ Unit :=
  if t.has barrierEdgeTag then
    match firstNode? nodes with
    | .error f => .fail s f
    | .ok none => .pure s ()
    | .ok (some node) => c.block s edge node
  else .pure s ()

/-- Classifies a way and writes the access flags of its edge. -/
def handleTags (c : Classifier) (s : σ) (edge : ε) (t : Tags) (nodes : Json) :
    Outcome Fault Event σ Access :=
  match c.access t with
  | .skip => ⟨s, [.skipped (FlagStore.label σ edge) t], .ok .skip⟩
  | access =>
    match FlagStore.fault? s edge with
    | some f => .fail s f
    | none =>
      (c.blockFirst (c.mark s edge (c.openings s edge t access)) edge t nodes).map fun () => access

/-- Classifies a way given by any JSON value and writes the access flags of its edge. -/
def handle (c : Classifier) (s : σ) (edge : ε) (way nodes : Json) :
    Outcome Fault Event σ Access :=
  match Tags.ofJson? way with
  | none => .fail s .tagsNotObject
  | some t => c.handleTags s edge t nodes

/-- Classifies a way by its tags alone: the roundabout flag of its edge is written first, and the
    result is what the flags of the edge say in the end. -/
def classifyWay (c : Classifier) (s : σ) (edge : ε) (t : Tags) (nodes : Json) :
    Outcome Fault Event σ (Access × Directions) :=
  let s := FlagStore.set s (c.roundaboutSlot edge) t.isRoundabout
  (c.handleTags s edge t nodes).andThen fun s access => .pure s (access, c.marked s edge)

end Classifier

end RoadAccess
