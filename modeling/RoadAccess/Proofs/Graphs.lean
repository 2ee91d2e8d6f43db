import Mathlib.Data.List.Nodup
import Mathlib.Data.Prod.Basic
import RoadAccess.Proofs.Store

namespace RoadAccess

/-!
# Simple graphs

A graph lists its nodes and, for each of them, its out-edges.  No node and no out-edge is ever listed
twice, whatever was added or removed before.

* `Keyed.lookup_eq_some_iff_mem` — look-up in a list that binds no key twice;
* `Graph.Simple` — nothing is listed twice; `simple_empty`, `simple_addNode`, `simple_addEdge`,
  `simple_removeEdge?`, `simple_setFlag` — every graph that can be built is so;
* `Graph.mem_edges_iff`, `Graph.nodup_edges` — the edges of a simple graph are those that are there,
  each listed once;
* `Graph.Same` — two graphs have the same nodes, edges and attributes, whatever their order;
  `same_addEdge_addEdge` — as two to which the same edges were added in different orders.
-/

/-! ### Keys that are bound once -/

namespace Keyed

variable {α β : Type} [DecidableEq α]

/-- Where no key is bound twice, look-up finds exactly the pairs that are there. -/
theorem lookup_eq_some_iff_mem {entries : List (α × β)} (h : (keys entries).Nodup) (k : α) (v : β) :
    entries.lookup k = some v ↔ (k, v) ∈ entries := by
  induction entries with
  | nil => simp
  | cons e rest ih =>
    obtain ⟨j, w⟩ := e
    obtain ⟨hj, hrest⟩ := List.nodup_cons.1 (show (j :: keys rest).Nodup from h)
    rw [lookup_cons_ite, List.mem_cons, Prod.mk.injEq]
    by_cases hk : k = j
    · subst hk
      rw [if_pos rfl, Option.some.injEq]
      constructor
      · intro hv
        exact .inl ⟨rfl, hv.symm⟩
      · rintro (⟨-, hv⟩ | hmem)
        · exact hv.symm
        · -- A second pair with the key would repeat it.
          exact absurd (List.mem_map_of_mem hmem) hj
    · rw [if_neg hk, ih hrest]
      simp only [hk, false_and, false_or]

theorem mem_keys_put (entries : List (α × β)) (k k' : α) (v : β) :
    k' ∈ keys (put entries k v) ↔ k' = k ∨ k' ∈ keys entries := by
  rw [keys_put]
  split
  · next hk =>
    constructor
    · exact .inr
    · rintro (rfl | h)
      · exact hk
      · exact h
  · rw [List.mem_append, List.mem_singleton, or_comm]

/-- After a binding there is the new pair, and otherwise only what was there before. -/
theorem mem_of_mem_put {entries : List (α × β)} {k : α} {v : β} {e : α × β}
    (h : e ∈ put entries k v) : e = (k, v) ∨ e ∈ entries := by
  induction entries with
  | nil => exact .inl (List.mem_singleton.1 h)
  | cons first rest ih =>
    obtain ⟨j, w⟩ := first
    rw [put] at h
    split at h
    · rcases List.mem_cons.1 h with hnew | hold
      · exact .inl hnew
      · exact .inr (List.mem_cons_of_mem _ hold)
    · rcases List.mem_cons.1 h with hfirst | hrest
      · exact .inr (hfirst ▸ List.mem_cons_self)
      · exact (ih hrest).imp_right (List.mem_cons_of_mem _)

end Keyed

namespace Graph

variable {g : Graph}

/-! ### Simple graphs -/

/-- Nothing is listed twice. -/
structure Simple (g : Graph) : Prop where
  /-- The nodes are different. -/
  nodes : (Keyed.keys g.nodes).Nodup
  /-- The out-edges of a node lead to different nodes. -/
  targets : ∀ listed ∈ g.nodes, (Keyed.keys listed.2).Nodup

theorem Simple.nodup_keys_out (h : g.Simple) (u : Identifier) : (Keyed.keys (g.out u)).Nodup := by
  rw [out]
  cases hu : g.nodes.lookup u with
  | none => exact List.nodup_nil
  | some targets => exact h.targets _ ((Keyed.lookup_eq_some_iff_mem h.nodes u targets).1 hu)

/-- New out-edges of a node keep a graph simple if they are different themselves. -/
theorem Simple.put (h : g.Simple) (u : Identifier) {targets : List (Identifier × Attributes)}
    (htargets : (Keyed.keys targets).Nodup) : Simple ⟨Keyed.put g.nodes u targets⟩ where
  nodes := Keyed.nodup_keys_put h.nodes u targets
  targets listed hmem := by
    rcases Keyed.mem_of_mem_put hmem with rfl | hold
    · exact htargets
    · exact h.targets listed hold

theorem simple_empty : empty.Simple := ⟨List.nodup_nil, nofun⟩

theorem simple_addNode (h : g.Simple) (u : Identifier) : (g.addNode u).Simple :=
  h.put u (h.nodup_keys_out u)

theorem simple_setAttributes (h : g.Simple) (e : GraphEdge) (as : Attributes) :
    (g.setAttributes e as).Simple :=
  h.put e.1 (Keyed.nodup_keys_put (h.nodup_keys_out e.1) e.2 as)

theorem simple_addEdge (h : g.Simple) (e : GraphEdge) (as : Attributes) :
    (g.addEdge e as).Simple :=
  simple_setAttributes (simple_addNode (simple_addNode h e.1) e.2) e _

theorem simple_setFlag (h : g.Simple) (slot : Slot GraphEdge) (b : Bool) :
    (g.setFlag slot b).Simple :=
  simple_setAttributes h slot.edge _

theorem simple_removeEdge? (h : g.Simple) {e : GraphEdge} {g' : Graph}
    (hremove : g.removeEdge? e = some g') : g'.Simple := by
  unfold removeEdge? at hremove
  split at hremove
  · obtain rfl := Option.some.inj hremove
    exact h.put e.1 ((h.nodup_keys_out e.1).sublist (List.filter_sublist.map Prod.fst))
  · cases hremove

/-! ### Edges -/

/-- The edges that a simple graph lists are those that are there. -/
theorem mem_edges_iff (h : g.Simple) (e : GraphEdge) : e ∈ g.edges ↔ g.hasEdge e = true := by
  rw [hasEdge, attributes?, Keyed.lookup_isSome_iff]
  simp only [edges, List.mem_flatMap, List.mem_map, Keyed.keys]
  constructor
  · rintro ⟨⟨u, targets⟩, hmem, ⟨v, as⟩, hv, rfl⟩
    have hout : g.out u = targets := by
      rw [out, (Keyed.lookup_eq_some_iff_mem h.nodes u targets).2 hmem, Option.getD_some]
    exact ⟨(v, as), hout.symm ▸ hv, rfl⟩
  · rintro ⟨⟨v, as⟩, hv, hve⟩
    rw [out] at hv
    cases hu : g.nodes.lookup e.1 with
    | none =>
      rw [hu] at hv
      cases hv
    | some targets =>
      rw [hu] at hv
      have hmem := (Keyed.lookup_eq_some_iff_mem h.nodes e.1 targets).1 hu
      exact ⟨(e.1, targets), hmem, (v, as), hv, Prod.ext rfl hve⟩

/-- A simple graph lists every edge once. -/
theorem nodup_edges (h : g.Simple) : g.edges.Nodup := by
  refine List.nodup_flatMap.2 ⟨?_, ?_⟩
  · rintro ⟨u, targets⟩ hmem
    have htargets : (targets.map Prod.fst).Nodup := h.targets _ hmem
    have hpairs := htargets.map (Prod.mk_right_injective u)
    rwa [List.map_map] at hpairs
  · have hnodes : g.nodes.Pairwise fun a b => a.1 ≠ b.1 := List.pairwise_map.1 h.nodes
    refine hnodes.imp ?_
    -- Edges of different nodes differ in their first node.
    rintro ⟨u, targets⟩ ⟨u', targets'⟩ hne e he he'
    obtain ⟨⟨v, as⟩, -, rfl⟩ := List.mem_map.1 he
    obtain ⟨⟨v', as'⟩, -, hedge⟩ := List.mem_map.1 he'
    exact hne (Prod.mk.inj hedge).1.symm

/-! ### Graphs that differ in their order only -/

/-- Two graphs have the same nodes, the same edges, and the same attributes on every edge, whatever
    the order in which these were added. -/
structure Same (g g' : Graph) : Prop where
  nodes : ∀ u, u ∈ Keyed.keys g.nodes ↔ u ∈ Keyed.keys g'.nodes
  edges : ∀ e, e ∈ g.edges ↔ e ∈ g'.edges
  attributes : ∀ e name, g.attribute? e name = g'.attribute? e name

/-- The edges of one are then a rearrangement of those of the other. -/
theorem Same.perm_edges {g' : Graph} (h : g.Same g') (hg : g.Simple) (hg' : g'.Simple) :
    g.edges.Perm g'.edges :=
  (List.perm_ext_iff_of_nodup (nodup_edges hg) (nodup_edges hg')).2 h.edges

theorem Same.hasEdge {g' : Graph} (h : g.Same g') (hg : g.Simple) (hg' : g'.Simple)
    (e : GraphEdge) : g.hasEdge e = g'.hasEdge e := by
  rw [Bool.eq_iff_iff, ← mem_edges_iff hg, ← mem_edges_iff hg']
  exact h.edges e

theorem mem_nodes_addEdge (g : Graph) (e : GraphEdge) (as : Attributes) (u : Identifier) :
    u ∈ Keyed.keys (g.addEdge e as).nodes ↔ u = e.1 ∨ u = e.2 ∨ u ∈ Keyed.keys g.nodes := by
  simp only [addEdge, setAttributes, addNode, Keyed.mem_keys_put]
  tauto

theorem out_addNode (g : Graph) (u u' : Identifier) : (g.addNode u).out u' = g.out u' := by
  simp only [out, addNode, Keyed.lookup_put]
  split
  · next h => rw [h, Option.getD_some]
  · rfl

theorem attributes?_addEdge (g : Graph) (e e' : GraphEdge) (as : Attributes) :
    (g.addEdge e as).attributes? e' =
      if e' = e then some (Keyed.putAll ((g.attributes? e).getD []) as) else g.attributes? e' := by
  have hnodes : ∀ e'', ((g.addNode e.1).addNode e.2).attributes? e'' = g.attributes? e'' := by
    intro e''
    rw [attributes?, out_addNode, out_addNode, attributes?]
  rw [addEdge, attributes?_setAttributes, hnodes, hnodes]

/-- Two edges can be added in either order. -/
theorem same_addEdge_addEdge (hg : g.Simple) {e e' : GraphEdge} (hne : e ≠ e')
    (as bs : Attributes) :
    ((g.addEdge e as).addEdge e' bs).Same ((g.addEdge e' bs).addEdge e as) := by
  have hattributes : ∀ e'', ((g.addEdge e as).addEdge e' bs).attributes? e'' =
      ((g.addEdge e' bs).addEdge e as).attributes? e'' := by
    intro e''
    simp only [attributes?_addEdge, if_neg hne, if_neg hne.symm]
    by_cases he : e'' = e
    · rw [if_neg (he ▸ hne), if_pos he, if_pos he]
    · rw [if_neg he, if_neg he]
  refine ⟨fun u => ?_, fun e'' => ?_, fun e'' name => ?_⟩
  · simp only [mem_nodes_addEdge]
    tauto
  · rw [mem_edges_iff (simple_addEdge (simple_addEdge hg e as) e' bs),
      mem_edges_iff (simple_addEdge (simple_addEdge hg e' bs) e as), Graph.hasEdge, hattributes,
      Graph.hasEdge]
  · rw [attribute?, hattributes, attribute?]

end Graph

end RoadAccess
