import RoadAccess.Fault
import RoadAccess.Identifier
import RoadAccess.Keyed

namespace RoadAccess

/-!
# Flags of edges

Truth values are kept for edges under a key and for a sense of travel.

* `Slot` — the place of a flag: key, edge and sense;
* `FlagStore` — what a store of flags offers: it says whether it can hold flags of an edge, and
  for such an edge every flag can be read and written;
* `FlagTable` — the store in memory; flags that were never written are false.
-/

/-- The place of a flag. -/
structure Slot (ε : Type) where
  key : String
  edge : ε
  /-- The sense against the geometry of the edge. -/
  reverse : Bool
  deriving DecidableEq

/-- A store `σ` of flags of edges `ε`. -/
class FlagStore (σ : Type) (ε : outParam Type) where
  /-- Why no flag of the edge can be read or written, if so. -/
  fault? : σ → ε → Option Fault
  /-- The flag in a slot of an edge without fault. -/
  get : σ → Slot ε → Bool
  /-- The store with a flag written to a slot of an edge without fault. -/
  set : σ → Slot ε → Bool → σ
  /-- The edge in a message. -/
  label : ε → String

namespace FlagStore

variable {σ ε : Type} [FlagStore σ ε]

/-- Reads a flag. -/
def read (s : σ) (slot : Slot ε) : Except Fault Bool :=
  match fault? s slot.edge with
  | some f => .error f
  | none => .ok (get s slot)

/-- Writes a flag. -/
def write (s : σ) (slot : Slot ε) (value : Bool) : Except Fault σ :=
  match fault? s slot.edge with
  | some f => .error f
  | none => .ok (set s slot value)

end FlagStore

/-! ### The table in memory -/

/-- The flags that were written, each with its last value. -/
structure FlagTable where
  entries : List (Slot Identifier × Bool)

namespace FlagTable

/-- No flags. -/
def empty : FlagTable := ⟨[]⟩

/-- The flag in a slot; one that was never written is false. -/
def get (t : FlagTable) (slot : Slot Identifier) : Bool := (t.entries.lookup slot).getD false

/-- The table with a flag written to a slot. -/
def set (t : FlagTable) (slot : Slot Identifier) (value : Bool) : FlagTable :=
  ⟨Keyed.put t.entries slot value⟩

/-- The flag in a slot was written. -/
def written (t : FlagTable) (slot : Slot Identifier) : Bool := (t.entries.lookup slot).isSome

/-- The different edges with a flag under the key, in the order of their first flags. -/
def edges (t : FlagTable) (key : String) : List Identifier :=
  ((t.entries.filter fun (slot, _) => slot.key = key).map fun (slot, _) => slot.edge).eraseDups

/-- How many edges have a flag under the key. -/
def edgeCount (t : FlagTable) (key : String) : Nat := (t.edges key).length

instance : FlagStore FlagTable Identifier where
  fault? _ edge := if edge.hashable then none else some .edgeNotHashable
  get := get
  set := set
  label := Identifier.label

/-! ### Reading what was written -/

@[simp] theorem get_empty (slot : Slot Identifier) : empty.get slot = false := rfl

/-- A flag is read back, and no other slot is touched. -/
@[simp] theorem get_set (t : FlagTable) (slot slot' : Slot Identifier) (value : Bool) :
    (t.set slot value).get slot' = if slot' = slot then value else t.get slot' := by
  unfold get set
  rw [Keyed.lookup_put]
  split <;> rfl

/-- Exactly the slot is written besides those written before. -/
@[simp] theorem written_set (t : FlagTable) (slot slot' : Slot Identifier) (value : Bool) :
    (t.set slot value).written slot' = (decide (slot' = slot) || t.written slot') := by
  unfold written set
  rw [Keyed.lookup_put]
  by_cases h : slot' = slot <;> simp [h]

end FlagTable

end RoadAccess
