import RoadAccess.Tags.Basic
import RoadAccess.Way.Access

namespace RoadAccess

/-!
# Events

What is reported while ways are classified, with a level and a message.
-/

/-- How important a report is. -/
inductive Level where
  | debug
  | info
  | error
  deriving DecidableEq, Repr

namespace Level

/-- The name of a level. -/
def name : Level → String
  | .debug => "DEBUG"
  | .info => "INFO"
  | .error => "ERROR"

/-- The rank of a level: a report of a lower rank than asked for is not shown. -/
def rank : Level → Nat
  | .debug => 10
  | .info => 20
  | .error => 40

end Level

/-- How many ways had each outcome, outcomes in the order of their first way. -/
abbrev Tally := List (Access × Nat)

/-- The tally of outcomes. -/
def Tally.ofList (outcomes : List Access) : Tally :=
  outcomes.eraseDups.map fun a => (a, outcomes.count a)

/-- A report about the classification of ways. -/
inductive Event where
  /-- The edge of a way that stays out of the network. -/
  | skipped (edge : String) (tags : Tags)
  /-- An edge that a node blocks. -/
  | blocked (edge : String) (node : Json)
  /-- A graph whose edges have been classified. -/
  | annotated (edges : Nat) (tally : Tally)

namespace Event

/-- The level of a report. -/
def level : Event → Level
  | .skipped .. => .debug
  | .blocked .. => .debug
  | .annotated .. => .info

/-- A tally as messages show it. -/
def tallyText (tally : Tally) : String :=
  (Json.object (tally.map fun (a, n) => (a.word, .int n))).display

/-- The message of a report. -/
def message : Event → String
  | .skipped edge tags => s!"Aresta {edge} ignorada: {tags.display}"
  | .blocked edge node => s!"Aresta {edge} bloqueada por barreira: {node.display}"
  | .annotated edges tally => s!"Grafo anotado: {edges} arestas ({tallyText tally})"

end Event

end RoadAccess
