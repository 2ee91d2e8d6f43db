import RoadAccess.Edge.Flags

namespace RoadAccess

/-!
# Directed graphs with attributes

A graph keeps its nodes in the order in which they first came, and for each node its out-edges in
the order in which they were added.

* `Graph.addEdge` — adds an edge and its nodes, or merges attributes into an edge that is there;
* `Graph.removeEdge?` — removes an edge, if it is there; its nodes stay;
* `Graph.edges` — the edges in order, node by node;
* the instance of `FlagStore` keeps the flags of an edge among its attributes.
-/

/-- Attributes: JSON values under names. -/
abbrev Attributes := List (String × Json)

/-- An edge: from its first node to its second. -/
abbrev GraphEdge := Identifier × Identifier

/-- A directed graph. -/
structure Graph where
  /-- The nodes, each with its out-edges: target and attributes. -/
  nodes : List (Identifier × List (Identifier × Attributes))

namespace Graph

/-- The graph without nodes. -/
def empty : Graph := ⟨[]⟩

/-- The out-edges of a node. -/
def out (g : Graph) (u : Identifier) : List (Identifier × Attributes) :=
  (g.nodes.lookup u).getD []

/-- The attributes of an edge, if it is there. -/
def attributes? (g : Graph) (e : GraphEdge) : Option Attributes := (g.out e.1).lookup e.2

/-- The value of an attribute of an edge. -/
def attribute? (g : Graph) (e : GraphEdge) (name : String) : Option Json :=
  (g.attributes? e).bind (·.lookup name)

/-- The edge is there. -/
def hasEdge (g : Graph) (e : GraphEdge) : Bool := (g.attributes? e).isSome

/-- The edges in order. -/
def edges (g : Graph) : List GraphEdge :=
  g.nodes.flatMap fun (u, targets) => targets.map fun (v, _) => (u, v)

/-! ### Changes -/

/-- The graph with a node, in its old place if it is there already. -/
def addNode (g : Graph) (u : Identifier) : Graph := ⟨Keyed.put g.nodes u (g.out u)⟩

/-- The graph with the attributes of an edge replaced. -/
def setAttributes (g : Graph) (e : GraphEdge) (attributes : Attributes) : Graph :=
  ⟨Keyed.put g.nodes e.1 (Keyed.put (g.out e.1) e.2 attributes)⟩

/-- The graph with an edge; attributes of an edge that is there already are kept or replaced. -/
def addEdge (g : Graph) (e : GraphEdge) (attributes : Attributes) : Graph :=
  let g := (g.addNode e.1).addNode e.2
  g.setAttributes e (Keyed.putAll ((g.attributes? e).getD []) attributes)

/-- The graph without an edge, if the edge is there. -/
def removeEdge? (g : Graph) (e : GraphEdge) : Option Graph :=
  if g.hasEdge e then some ⟨Keyed.put g.nodes e.1 ((g.out e.1).filter fun (v, _) => v ≠ e.2)⟩
  else none

/-- The graph with an attribute of an edge written. -/
def setAttribute (g : Graph) (e : GraphEdge) (name : String) (value : Json) : Graph :=
  g.setAttributes e (Keyed.put ((g.attributes? e).getD []) name value)

/-! ### Flags -/

/-- The name of the attribute that holds a flag: the key, with an ending for the sense against the
    geometry. -/
def attributeName (key : String) (reverse : Bool) : String :=
  if reverse then key ++ "_reverse" else key

/-- The flag of an edge in an attribute; any attribute that says something is true. -/
def flag (g : Graph) (slot : Slot GraphEdge) : Bool :=
  ((g.attribute? slot.edge (attributeName slot.key slot.reverse)).map Json.truthy).getD false

/-- The graph with a flag of an edge written. -/
def setFlag (g : Graph) (slot : Slot GraphEdge) (value : Bool) : Graph :=
  g.setAttribute slot.edge (attributeName slot.key slot.reverse) (.bool value)

instance : FlagStore Graph GraphEdge where
  fault? g e := if g.hasEdge e then none else some .noSuchEdge
  get := flag
  set := setFlag
  label e := (Identifier.tuple [e.1, e.2]).label

end Graph

end RoadAccess
