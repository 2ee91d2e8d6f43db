import RoadAccess.Edge.Classifier
import RoadAccess.Network.Graph

namespace RoadAccess

/-!
# Annotating a graph

The edges of a graph carry the tags of their ways in the attribute `tags` and the tags of their
nodes in `node_tags`.  Annotation classifies them in order and writes the flags of each: whether
it is part of a roundabout, and the senses in which it is open.

* `Classifier.annotateEdge` — one edge; a way that stays out leaves its edge closed in both senses;
* `Classifier.annotateEdges` — several edges, up to the first that cannot be classified;
* `Classifier.annotate` — all edges, with a report of the tally.
-/

namespace Classifier

/-- The attribute with the tags of the way. -/
def tagsAttribute : String := "tags"

/-- The attribute with the tags of the nodes. -/
def nodesAttribute : String := "node_tags"

/-- Classifies an edge and writes its flags. -/
def annotateEdge (c : Classifier) (g : Graph) (e : GraphEdge) :
    Outcome Fault Event Graph Access :=
  match Tags.ofJson? ((g.attribute? e tagsAttribute).getD .null) with
  | none => .fail g .tagsNotObject
  | some t =>
    let g := g.setFlag (c.roundaboutSlot e) t.isRoundabout
    let nodes := (g.attribute? e nodesAttribute).getD .null
    (c.handleTags g e t nodes).andThen fun g access =>
      .pure (if access = .skip then c.mark g e .closed else g) access

/-- Classifies edges in order, up to the first that cannot be classified. -/
def annotateEdges (c : Classifier) (g : Graph) : List GraphEdge →
    Outcome Fault Event Graph (List Access)
  | [] => .pure g []
  | e :: es =>
    (c.annotateEdge g e).andThen fun g access =>
      (c.annotateEdges g es).map (access :: ·)

/-- Classifies all edges of a graph. -/
def annotate (c : Classifier) (g : Graph) : Outcome Fault Event Graph Tally :=
  (c.annotateEdges g g.edges).andThen fun g outcomes =>
    let tally := Tally.ofList outcomes
    ⟨g, [.annotated g.edges.length tally], .ok tally⟩

end Classifier

end RoadAccess
