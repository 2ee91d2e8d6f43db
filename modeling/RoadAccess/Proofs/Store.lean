import RoadAccess.Edge.Classifier
import RoadAccess.Network.Graph

namespace RoadAccess

/-!
# Lawful stores of flags

What a store of flags promises to those who write and read flags of edges.

* `LawfulFlagStore` — every flag has a place, a write changes the flags of its place and nothing
  else, and an edge that could be written to can still be;
* the table in memory keeps every slot at a place of its own, a graph keeps a slot in an attribute
  of the edge, which two slots with different keys may share;
* `Classifier.get_mark`, `Classifier.marked_mark` — what the access flags of an edge are once they
  are written, and that no other place is touched;
* `Classifier.mark_mark` — access flags that are written again leave no trace of the first pair.
-/

/-- The laws of a store of flags. -/
class LawfulFlagStore (σ : Type) (ε : outParam Type) [DecidableEq ε] [FlagStore σ ε] where
  /-- The slot that stands for all slots that are kept at the same place. -/
  place : Slot ε → Slot ε
  /-- A flag is kept with its edge. -/
  edge_place : ∀ slot, (place slot).edge = slot.edge
  /-- The two senses of one key have places of their own. -/
  place_ne : ∀ (key : String) (e : ε), place ⟨key, e, true⟩ ≠ place ⟨key, e, false⟩
  /-- A write is read back from its place and from no other. -/
  get_set : ∀ (s : σ) (slot slot' : Slot ε) (b : Bool),
    FlagStore.get (FlagStore.set s slot b) slot' =
      if place slot' = place slot then b else FlagStore.get s slot'
  /-- A write leaves the same edges usable. -/
  fault?_set : ∀ (s : σ) (slot : Slot ε) (b : Bool), FlagStore.fault? s slot.edge = none →
    ∀ e, FlagStore.fault? (FlagStore.set s slot b) e = FlagStore.fault? s e
  /-- Of two writes to one slot the later one counts. -/
  set_set : ∀ (s : σ) (slot : Slot ε) (b b' : Bool),
    FlagStore.set (FlagStore.set s slot b) slot b' = FlagStore.set s slot b'
  /-- The same with a write to another place of the edge in between. -/
  set_set_set : ∀ (s : σ) (slot slot' : Slot ε) (b c b' : Bool),
    slot'.edge = slot.edge → place slot' ≠ place slot →
    FlagStore.set (FlagStore.set (FlagStore.set s slot b) slot' c) slot b' =
      FlagStore.set (FlagStore.set s slot b') slot' c

/-! ### The table in memory -/

namespace FlagTable

theorem set_set (t : FlagTable) (slot : Slot Identifier) (b b' : Bool) :
    (t.set slot b).set slot b' = t.set slot b' :=
  congrArg FlagTable.mk (Keyed.put_put_self ..)

theorem set_set_set (t : FlagTable) {slot slot' : Slot Identifier} (b c b' : Bool)
    (h : slot' ≠ slot) :
    ((t.set slot b).set slot' c).set slot b' = (t.set slot b').set slot' c :=
  congrArg FlagTable.mk (Keyed.put_put_put _ _ _ _ h)

/-- An edge has a fault in a table exactly if it identifies nothing. -/
theorem fault?_eq_some_iff (t : FlagTable) (e : Identifier) (f : Fault) :
    FlagStore.fault? t e = some f ↔ e.hashable = false ∧ .edgeNotHashable = f := by
  show (if e.hashable then none else some Fault.edgeNotHashable) = some f ↔ _
  rw [Option.ite_none_left_eq_some, Bool.not_eq_true, Option.some.injEq]

theorem fault?_eq_none_iff (t : FlagTable) (e : Identifier) :
    FlagStore.fault? t e = none ↔ e.hashable = true := by
  show (if e.hashable then none else some Fault.edgeNotHashable) = none ↔ _
  simp

/-- Every slot of a table is a place of its own. -/
instance : LawfulFlagStore FlagTable Identifier where
  place slot := slot
  edge_place _ := rfl
  place_ne key e h := by simp at h
  get_set := get_set
  fault?_set _ _ _ _ _ := rfl
  set_set := set_set
  set_set_set t _ _ b c b' _ h := set_set_set t b c b' h

end FlagTable

/-! ### Attributes of a graph -/

namespace Graph

theorem out_setAttributes (g : Graph) (e : GraphEdge) (as : Attributes) (u : Identifier) :
    (g.setAttributes e as).out u = if u = e.1 then Keyed.put (g.out e.1) e.2 as else g.out u := by
  simp only [out, setAttributes, Keyed.lookup_put]
  split <;> rfl

theorem attributes?_setAttributes (g : Graph) (e e' : GraphEdge) (as : Attributes) :
    (g.setAttributes e as).attributes? e' = if e' = e then some as else g.attributes? e' := by
  obtain ⟨u, v⟩ := e
  obtain ⟨u', v'⟩ := e'
  simp only [attributes?, out_setAttributes, Prod.mk.injEq]
  by_cases hu : u' = u
  · subst hu
    by_cases hv : v' = v <;> simp [hv, Keyed.lookup_put]
  · simp [hu]

/-- Attributes of an edge that are replaced twice are the ones that came last. -/
theorem setAttributes_setAttributes (g : Graph) (e : GraphEdge) (as bs : Attributes) :
    (g.setAttributes e as).setAttributes e bs = g.setAttributes e bs := by
  have hout : (g.setAttributes e as).out e.1 = Keyed.put (g.out e.1) e.2 as := by
    rw [out_setAttributes, if_pos rfl]
  rw [setAttributes, hout, Keyed.put_put_self]
  exact congrArg Graph.mk (Keyed.put_put_self ..)

/-- The value of an attribute after one was written. -/
theorem attribute?_setAttribute (g : Graph) (e e' : GraphEdge) (name name' : String) (v : Json) :
    (g.setAttribute e name v).attribute? e' name' =
      if e' = e ∧ name' = name then some v else g.attribute? e' name' := by
  simp only [attribute?, setAttribute, attributes?_setAttributes]
  by_cases he : e' = e
  · subst he
    rw [if_pos rfl, Option.bind_some, Keyed.lookup_put]
    -- An edge without attributes has none to look up.
    cases g.attributes? e' <;> by_cases hn : name' = name <;> simp [hn]
  · simp [he]

/-- The attributes of an edge after two of them were written. -/
theorem setAttribute_setAttribute (g : Graph) (e : GraphEdge) (name name' : String) (v w : Json) :
    (g.setAttribute e name v).setAttribute e name' w =
      g.setAttributes e
        (Keyed.put (Keyed.put ((g.attributes? e).getD []) name v) name' w) := by
  simp only [setAttribute, attributes?_setAttributes, if_true, Option.getD_some,
    setAttributes_setAttributes]

/-- Writing an attribute makes sure that its edge is there, and no other. -/
theorem hasEdge_setAttribute (g : Graph) (e e' : GraphEdge) (name : String) (v : Json) :
    (g.setAttribute e name v).hasEdge e' = (decide (e' = e) || g.hasEdge e') := by
  simp only [hasEdge, setAttribute, attributes?_setAttributes]
  by_cases h : e' = e <;> simp [h]

theorem attributeName_true_ne (key : String) : attributeName key true ≠ attributeName key false := by
  intro h
  have hlen := congrArg String.length h
  simp [attributeName] at hlen

/-- A flag of a graph is kept in the attribute of its edge that has the name of the slot. -/
instance : LawfulFlagStore Graph GraphEdge where
  place slot := ⟨attributeName slot.key slot.reverse, slot.edge, false⟩
  edge_place _ := rfl
  place_ne key e h := attributeName_true_ne key (Slot.mk.inj h).1
  get_set g slot slot' b := by
    show flag (g.setFlag slot b) slot' = _
    simp only [flag, setFlag, attribute?_setAttribute, Slot.mk.injEq, and_true]
    by_cases h : slot'.edge = slot.edge ∧
        attributeName slot'.key slot'.reverse = attributeName slot.key slot.reverse
    · rw [if_pos h, if_pos h.symm]
      rfl
    · rw [if_neg h, if_neg fun h' => h h'.symm]
      rfl
  fault?_set g slot b h e := by
    show (if (g.setFlag slot b).hasEdge e then none else some Fault.noSuchEdge) = _
    have hslot : g.hasEdge slot.edge = true := by
      simpa [FlagStore.fault?] using h
    have hkept : (g.setFlag slot b).hasEdge e = g.hasEdge e := by
      rw [setFlag, hasEdge_setAttribute]
      by_cases he : e = slot.edge
      · rw [he, hslot, Bool.or_true]
      · rw [decide_eq_false he, Bool.false_or]
    rw [hkept]
    rfl
  set_set g slot b b' := by
    show (g.setFlag slot b).setFlag slot b' = g.setFlag slot b'
    rw [setFlag, setFlag, setAttribute_setAttribute, Keyed.put_put_self]
    rfl
  set_set_set g slot slot' b c b' he hne := by
    show ((g.setFlag slot b).setFlag slot' c).setFlag slot b' = (g.setFlag slot b').setFlag slot' c
    have hname : attributeName slot'.key slot'.reverse ≠ attributeName slot.key slot.reverse :=
      fun h => hne (by rw [h, he])
    simp only [setFlag, he, setAttribute, attributes?_setAttributes, if_true, Option.getD_some,
      setAttributes_setAttributes, Keyed.put_put_put _ _ _ _ hname]

end Graph

/-! ### Writes to other edges -/

namespace LawfulFlagStore

variable {ε : Type} [DecidableEq ε]

theorem place_ne_of_edge_ne (σ : Type) [FlagStore σ ε] [LawfulFlagStore σ ε] {slot slot' : Slot ε}
    (h : slot'.edge ≠ slot.edge) : place σ slot' ≠ place σ slot := by
  intro hp
  have hedge := congrArg Slot.edge hp
  rw [edge_place, edge_place] at hedge
  exact h hedge

/-- A write is not seen from another edge. -/
theorem get_set_of_edge_ne {σ : Type} [FlagStore σ ε] [LawfulFlagStore σ ε] (s : σ)
    {slot slot' : Slot ε} (b : Bool) (h : slot'.edge ≠ slot.edge) :
    FlagStore.get (FlagStore.set s slot b) slot' = FlagStore.get s slot' := by
  rw [get_set, if_neg (place_ne_of_edge_ne σ h)]

end LawfulFlagStore

/-! ### Access flags -/

namespace Classifier

open LawfulFlagStore

variable {σ ε : Type} [DecidableEq ε] [FlagStore σ ε] [LawfulFlagStore σ ε]

/-- The flags of a store once the access flags of an edge are written. -/
theorem get_mark (c : Classifier) (s : σ) (e : ε) (d : Directions) (slot : Slot ε) :
    FlagStore.get (c.mark s e d) slot =
      if place σ slot = place σ (c.accessSlot e true) then d.backward
      else if place σ slot = place σ (c.accessSlot e false) then d.forward
      else FlagStore.get s slot := by
  rw [mark, get_set, get_set]

/-- Access flags are read back. -/
@[simp] theorem marked_mark (c : Classifier) (s : σ) (e : ε) (d : Directions) :
    c.marked (c.mark s e d) e = d := by
  have hne : place σ (c.accessSlot e false) ≠ place σ (c.accessSlot e true) :=
    (place_ne c.accessKey e).symm
  rw [marked, get_mark, get_mark, if_neg hne, if_pos rfl, if_pos rfl]

/-- The flags of another edge are not touched. -/
theorem get_mark_of_edge_ne (c : Classifier) (s : σ) {e : ε} (d : Directions) {slot : Slot ε}
    (h : slot.edge ≠ e) : FlagStore.get (c.mark s e d) slot = FlagStore.get s slot := by
  rw [get_mark, if_neg (place_ne_of_edge_ne σ h), if_neg (place_ne_of_edge_ne σ h)]

/-- An edge that is marked twice is as if it had been marked with the second pair alone. -/
theorem mark_mark (c : Classifier) (s : σ) (e : ε) (d d' : Directions) :
    c.mark (c.mark s e d) e d' = c.mark s e d' := by
  have hswap := set_set_set s (c.accessSlot e false) (c.accessSlot e true) d.forward d.backward
    d'.forward rfl (place_ne c.accessKey e)
  simp only [mark]
  rw [hswap, set_set]

/-- Marking an edge leaves the same edges usable. -/
theorem fault?_mark (c : Classifier) (s : σ) {e : ε} (h : FlagStore.fault? s e = none)
    (d : Directions) (e' : ε) :
    FlagStore.fault? (c.mark s e d) e' = FlagStore.fault? s e' := by
  have hset := fault?_set s (c.accessSlot e false) d.forward h
  rw [mark, fault?_set _ (c.accessSlot e true) _ ((hset e).trans h), hset]

end Classifier

end RoadAccess
