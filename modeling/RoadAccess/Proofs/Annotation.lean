import RoadAccess.Network.Annotation
import RoadAccess.Proofs.Handling

namespace RoadAccess

/-!
# What annotation leaves on the edges of a graph

Annotation goes through the edges one after the other and writes flags among the attributes from
which it reads the tags.  It stays clear of the tags as long as no flag is kept under their names,
and then every edge ends with the flags that its own tags give.

* `Classifier.flagAttributes` — the attributes that annotation writes;
* `Classifier.annotateEdge_keeps`, `Classifier.annotateEdges_keeps` — annotation does nothing but
  write flags; `Classifier.attribute?_annotateEdge`, `Classifier.attribute?_annotateEdges` — so no
  other attribute and no other edge is touched;
* `Classifier.wayAccess_of_annotateEdge`, `Classifier.result_annotateEdge`,
  `Classifier.state_annotateEdge` — one edge;
* `Classifier.outcomes_annotateEdges`, `Classifier.verdict_of_annotateEdges`,
  `Classifier.access_annotateEdges` — a run over edges: the outcomes, and the access attributes of
  every edge.
-/

namespace Graph

theorem attribute?_setFlag (g : Graph) (slot : Slot GraphEdge) (b : Bool) (e : GraphEdge)
    (name : String) :
    (g.setFlag slot b).attribute? e name =
      if e = slot.edge ∧ name = attributeName slot.key slot.reverse then some (.bool b)
      else g.attribute? e name :=
  attribute?_setAttribute ..

end Graph

namespace Classifier

open RoadAccess.Graph

variable {c : Classifier}

/-! ### Attributes of flags -/

/-- The attributes that hold the flags of an edge. -/
def flagAttributes (c : Classifier) : List String :=
  [attributeName c.roundaboutKey false, attributeName c.accessKey false,
    attributeName c.accessKey true]

/-- A name with another ending is no name of a flag against the geometry. -/
private theorem attributeName_true_ne_of_getLast? {key name : String}
    (h : name.toList.getLast? ≠ some 'e') : attributeName key true ≠ name := by
  rintro rfl
  exact h (by simp [attributeName])

/-- Flags are kept apart from the tags unless their keys say otherwise. -/
theorem not_mem_flagAttributes {name : String} (hlast : name.toList.getLast? ≠ some 'e')
    (haccess : c.accessKey ≠ name) (hround : c.roundaboutKey ≠ name) :
    name ∉ c.flagAttributes := by
  simp only [flagAttributes, List.mem_cons, List.not_mem_nil, or_false, not_or]
  exact ⟨Ne.symm hround, Ne.symm haccess, (attributeName_true_ne_of_getLast? hlast).symm⟩

/-- No flag is kept where a graph has the tags of its ways and nodes. -/
theorem attributes_apart (haccess : c.accessKey ∉ [tagsAttribute, nodesAttribute])
    (hround : c.roundaboutKey ∉ [tagsAttribute, nodesAttribute]) :
    tagsAttribute ∉ c.flagAttributes ∧ nodesAttribute ∉ c.flagAttributes := by
  simp only [List.mem_cons, List.not_mem_nil, or_false, not_or] at haccess hround
  exact ⟨not_mem_flagAttributes (by decide) haccess.1 hround.1,
    not_mem_flagAttributes (by decide) haccess.2 hround.2⟩

/-- The attributes of a graph once the access flags of an edge are written. -/
theorem attribute?_mark (c : Classifier) (g : Graph) (e e' : GraphEdge) (d : Directions)
    (name : String) :
    (c.mark g e d).attribute? e' name =
      if e' = e ∧ name = attributeName c.accessKey true then some (.bool d.backward)
      else if e' = e ∧ name = attributeName c.accessKey false then some (.bool d.forward)
      else g.attribute? e' name := by
  show ((g.setFlag (c.accessSlot e false) d.forward).setFlag (c.accessSlot e true)
    d.backward).attribute? e' name = _
  rw [attribute?_setFlag, attribute?_setFlag]
  rfl

/-- Access flags are found in the attributes of the two senses. -/
theorem attribute?_mark_self (c : Classifier) (g : Graph) (e : GraphEdge) (d : Directions) :
    (c.mark g e d).attribute? e (attributeName c.accessKey false) = some (.bool d.forward) ∧
      (c.mark g e d).attribute? e (attributeName c.accessKey true) = some (.bool d.backward) := by
  constructor
  · rw [attribute?_mark, if_neg fun h => attributeName_true_ne _ h.2.symm, if_pos ⟨rfl, rfl⟩]
  · rw [attribute?_mark, if_pos ⟨rfl, rfl⟩]

/-- The attributes of an edge once all its flags are written. -/
theorem attribute?_mark_setFlag (c : Classifier) (g : Graph) (e : GraphEdge) (roundabout : Bool)
    (d : Directions) (name : String) :
    (c.mark (g.setFlag (c.roundaboutSlot e) roundabout) e d).attribute? e name =
      if name = attributeName c.accessKey true then some (.bool d.backward)
      else if name = attributeName c.accessKey false then some (.bool d.forward)
      else if name = attributeName c.roundaboutKey false then some (.bool roundabout)
      else g.attribute? e name := by
  rw [attribute?_mark, attribute?_setFlag]
  simp only [roundaboutSlot, true_and]

/-! ### Other attributes and other edges -/

/-- Writing a flag leaves every other edge, and the attributes that hold none. -/
theorem attribute?_setFlag_of_not_flag (g : Graph) {slot : Slot GraphEdge} {e : GraphEdge}
    {name : String} (hflag : attributeName slot.key slot.reverse ∈ c.flagAttributes)
    (h : e = slot.edge → name ∉ c.flagAttributes) (b : Bool) :
    (g.setFlag slot b).attribute? e name = g.attribute? e name := by
  rw [attribute?_setFlag, if_neg]
  rintro ⟨he, rfl⟩
  exact h he hflag

/-- An edge whose tags can be read has its roundabout flag written, then its way handled, and is
    closed if the way stays out. -/
theorem annotateEdge_of_tags {g : Graph} {e : GraphEdge} {t : Tags}
    (hway : Tags.ofJson? ((g.attribute? e tagsAttribute).getD .null) = some t) :
    c.annotateEdge g e =
      (c.handleTags (g.setFlag (c.roundaboutSlot e) t.isRoundabout) e t
        (((g.setFlag (c.roundaboutSlot e) t.isRoundabout).attribute? e nodesAttribute).getD
          .null)).andThen fun g access =>
        .pure (if access = .skip then c.mark g e .closed else g) access := by
  rw [annotateEdge, hway]

theorem annotateEdge_of_unreadable {g : Graph} {e : GraphEdge}
    (hway : Tags.ofJson? ((g.attribute? e tagsAttribute).getD .null) = none) :
    c.annotateEdge g e = .fail g .tagsNotObject := by
  rw [annotateEdge, hway]

/-- Annotating an edge does nothing but write flags of this edge, so it keeps whatever such writes
    keep. -/
theorem annotateEdge_keeps {P : Graph → Prop} {e : GraphEdge}
    (hset : ∀ (g : Graph) (slot : Slot GraphEdge) (b : Bool), slot.edge = e →
      attributeName slot.key slot.reverse ∈ c.flagAttributes → P g → P (g.setFlag slot b))
    {g : Graph} (h : P g) : P (c.annotateEdge g e).state := by
  have hmark : ∀ {g : Graph} (d : Directions), P g → P (c.mark g e d) := fun d h =>
    hset _ (c.accessSlot e true) _ rfl (by simp [flagAttributes, accessSlot])
      (hset _ (c.accessSlot e false) _ rfl (by simp [flagAttributes, accessSlot]) h)
  cases hway : Tags.ofJson? ((g.attribute? e tagsAttribute).getD .null) with
  | none =>
    rw [annotateEdge_of_unreadable hway]
    exact h
  | some t =>
    have hround : P (g.setFlag (c.roundaboutSlot e) t.isRoundabout) :=
      hset g (c.roundaboutSlot e) _ rfl (by simp [flagAttributes, roundaboutSlot]) h
    have hhandled : ∀ nodes,
        P (c.handleTags (g.setFlag (c.roundaboutSlot e) t.isRoundabout) e t nodes).state := by
      intro nodes
      rcases state_handleTags_eq_or c (g.setFlag (c.roundaboutSlot e) t.isRoundabout) e t nodes
        with hs | ⟨d, hs⟩
      · rw [hs]
        exact hround
      · rw [hs]
        exact hmark d hround
    rw [annotateEdge_of_tags hway]
    unfold Outcome.andThen
    split
    · exact hhandled _
    · simp only [Outcome.pure]
      split
      · exact hmark .closed (hhandled _)
      · exact hhandled _

/-- Annotating several edges keeps whatever writes of their flags keep. -/
theorem annotateEdges_keeps {P : Graph → Prop} {es : List GraphEdge}
    (hset : ∀ (g : Graph) (slot : Slot GraphEdge) (b : Bool), slot.edge ∈ es →
      attributeName slot.key slot.reverse ∈ c.flagAttributes → P g → P (g.setFlag slot b))
    {g : Graph} (h : P g) : P (c.annotateEdges g es).state := by
  induction es generalizing g with
  | nil => exact h
  | cons e es ih =>
    have hhead : P (c.annotateEdge g e).state :=
      annotateEdge_keeps (fun g slot b he => hset g slot b (he ▸ List.mem_cons_self)) h
    unfold annotateEdges Outcome.andThen
    split
    · exact hhead
    · exact ih (fun g slot b he => hset g slot b (List.mem_cons_of_mem _ he)) hhead

/-- Annotating edges touches no other edge, and no attribute that holds no flag. -/
theorem attribute?_annotateEdges {es : List GraphEdge} {e' : GraphEdge} {name : String} (g : Graph)
    (h : e' ∈ es → name ∉ c.flagAttributes) :
    (c.annotateEdges g es).state.attribute? e' name = g.attribute? e' name := by
  refine annotateEdges_keeps (P := fun g' => g'.attribute? e' name = g.attribute? e' name)
    (fun g' slot b he hflag hkept => ?_) rfl
  rw [attribute?_setFlag_of_not_flag g' hflag fun heq : e' = _ => h (heq ▸ he), hkept]

theorem attribute?_annotateEdge (g : Graph) {e e' : GraphEdge} {name : String}
    (h : e' = e → name ∉ c.flagAttributes) :
    (c.annotateEdge g e).state.attribute? e' name = g.attribute? e' name := by
  refine annotateEdge_keeps (P := fun g' => g'.attribute? e' name = g.attribute? e' name)
    (fun g' slot b he hflag hkept => ?_) rfl
  rw [attribute?_setFlag_of_not_flag g' hflag fun heq => h (heq.trans he), hkept]

/-! ### One edge -/

/-- The access to the way of an edge; a way that cannot be read stays out. -/
def wayAccess (c : Classifier) (g : Graph) (e : GraphEdge) : Access :=
  ((Tags.ofJson? ((g.attribute? e tagsAttribute).getD .null)).map c.access).getD .skip

/-- The answer of an edge is the access to its way. -/
theorem wayAccess_of_annotateEdge {g : Graph} {e : GraphEdge} {a : Access}
    (h : (c.annotateEdge g e).result = .ok a) : c.wayAccess g e = a := by
  unfold wayAccess
  cases hway : Tags.ofJson? ((g.attribute? e tagsAttribute).getD .null) with
  | none =>
    rw [annotateEdge_of_unreadable hway] at h
    cases h
  | some t =>
    rw [annotateEdge_of_tags hway] at h
    obtain ⟨a', hhandled, hlast, -⟩ := Outcome.ok_of_andThen h
    obtain rfl := Except.ok.inj hlast
    exact eq_access_of_handleTags hhandled

/-- The roundabout flag of an edge is read back, and the edge can hold its access flags. -/
private theorem roundabout_setFlag (g : Graph) (e : GraphEdge) (b : Bool) :
    FlagStore.fault? (g.setFlag (c.roundaboutSlot e) b) e = none ∧
      FlagStore.get (g.setFlag (c.roundaboutSlot e) b) (c.roundaboutSlot e) = b := by
  have hthere : (g.setFlag (c.roundaboutSlot e) b).hasEdge e = true := by
    rw [setFlag, hasEdge_setAttribute]
    simp [roundaboutSlot]
  exact ⟨if_pos hthere, (LawfulFlagStore.get_set ..).trans (if_pos rfl)⟩

/-- The nodes of an edge as annotation finds them, once the roundabout flag is written. -/
def nodesRead (c : Classifier) (g : Graph) (e : GraphEdge) (t : Tags) : Json :=
  ((g.setFlag (c.roundaboutSlot e) t.isRoundabout).attribute? e nodesAttribute).getD .null

/-- They are those that the edge had, as long as no flag is kept in their place. -/
theorem nodesRead_eq (hname : nodesAttribute ∉ c.flagAttributes) (g : Graph) (e : GraphEdge)
    (t : Tags) : c.nodesRead g e t = (g.attribute? e nodesAttribute).getD .null := by
  rw [nodesRead, attribute?_setFlag_of_not_flag g List.mem_cons_self fun _ => hname]

/-- An edge whose tags can be read is annotated exactly if there is a verdict on them and on the nodes
    that are found. -/
theorem result_annotateEdge_of_tags {g : Graph} {e : GraphEdge} {t : Tags}
    (hway : Tags.ofJson? ((g.attribute? e tagsAttribute).getD .null) = some t) :
    (c.annotateEdge g e).result =
      (c.verdict t.isRoundabout t (c.nodesRead g e t)).map fun _ => c.access t := by
  obtain ⟨hfault, hround⟩ := roundabout_setFlag (c := c) g e t.isRoundabout
  have hresult := result_handleTags hfault c t (c.nodesRead g e t)
  rw [hround] at hresult
  rw [annotateEdge_of_tags hway]
  cases hv : c.verdict t.isRoundabout t (c.nodesRead g e t) with
  | error f =>
    rw [hv] at hresult
    exact congrArg Outcome.result (Outcome.andThen_of_error hresult _)
  | ok pair =>
    rw [hv] at hresult
    exact congrArg Outcome.result (Outcome.andThen_of_ok hresult _)

/-- It ends with the pair of the verdict, or closed if its way stays out. -/
theorem state_annotateEdge_of_tags {g : Graph} {e : GraphEdge} {t : Tags} {pair : Option Directions}
    (hway : Tags.ofJson? ((g.attribute? e tagsAttribute).getD .null) = some t)
    (hv : c.verdict t.isRoundabout t (c.nodesRead g e t) = .ok pair) :
    (c.annotateEdge g e).state =
      c.mark (g.setFlag (c.roundaboutSlot e) t.isRoundabout) e (pair.getD .closed) := by
  let g' := g.setFlag (c.roundaboutSlot e) t.isRoundabout
  obtain ⟨hfault, hround⟩ := roundabout_setFlag (c := c) g e t.isRoundabout
  have hresult := result_handleTags hfault c t (c.nodesRead g e t)
  rw [hround, hv] at hresult
  rw [annotateEdge_of_tags hway]
  refine (congrArg Outcome.state (Outcome.andThen_of_ok hresult _)).trans ?_
  show (if c.access t = .skip then c.mark (c.handleTags g' e t (c.nodesRead g e t)).state e .closed
    else (c.handleTags g' e t (c.nodesRead g e t)).state) = _
  -- A way that enters the network has had its pair written by the handling itself.
  rcases verdict_eq_ok hv with ⟨ha, rfl⟩ | ⟨d, b, hd, hc, rfl⟩
  · rw [if_pos ha, handleTags_of_skip ha]
    rfl
  · rw [if_neg (access_ne_skip hd)]
    exact state_handleTags hfault (hround ▸ hd) hc

/-- An edge whose tags can be read is annotated exactly if there is a verdict on them. -/
theorem result_annotateEdge {g : Graph} {e : GraphEdge} {t : Tags}
    (hname : nodesAttribute ∉ c.flagAttributes)
    (hway : Tags.ofJson? ((g.attribute? e tagsAttribute).getD .null) = some t) :
    (c.annotateEdge g e).result =
      (c.verdict t.isRoundabout t ((g.attribute? e nodesAttribute).getD .null)).map
        fun _ => c.access t := by
  rw [← nodesRead_eq hname g e t]
  exact result_annotateEdge_of_tags hway

/-- **One edge.**  An edge whose tags can be read ends with the pair of its verdict, or closed if
    its way stays out. -/
theorem state_annotateEdge {g : Graph} {e : GraphEdge} {t : Tags} {pair : Option Directions}
    (hname : nodesAttribute ∉ c.flagAttributes)
    (hway : Tags.ofJson? ((g.attribute? e tagsAttribute).getD .null) = some t)
    (hv : c.verdict t.isRoundabout t ((g.attribute? e nodesAttribute).getD .null) = .ok pair) :
    (c.annotateEdge g e).state =
      c.mark (g.setFlag (c.roundaboutSlot e) t.isRoundabout) e (pair.getD .closed) := by
  rw [← nodesRead_eq hname g e t] at hv
  exact state_annotateEdge_of_tags hway hv

/-- An edge that is annotated has tags that can be read and a verdict on them. -/
theorem verdict_of_annotateEdge {g : Graph} {e : GraphEdge} {a : Access}
    (hname : nodesAttribute ∉ c.flagAttributes) (h : (c.annotateEdge g e).result = .ok a) :
    ∃ t pair, Tags.ofJson? ((g.attribute? e tagsAttribute).getD .null) = some t ∧
      c.verdict t.isRoundabout t ((g.attribute? e nodesAttribute).getD .null) = .ok pair := by
  cases hway : Tags.ofJson? ((g.attribute? e tagsAttribute).getD .null) with
  | none =>
    rw [annotateEdge_of_unreadable hway] at h
    cases h
  | some t =>
    rw [result_annotateEdge hname hway] at h
    obtain ⟨pair, hv, -⟩ := Outcome.ok_of_map h
    exact ⟨t, pair, rfl, hv⟩

/-! ### A run over edges -/

/-- Annotation is a run over all edges, of which the outcomes are counted. -/
theorem result_annotate (c : Classifier) (g : Graph) :
    (c.annotate g).result = (c.annotateEdges g g.edges).result.map Tally.ofList := by
  rw [annotate]
  cases hr : (c.annotateEdges g g.edges).result with
  | error f => rw [Outcome.andThen_of_error hr, Except.map]
  | ok outcomes => rw [Outcome.andThen_of_ok hr, Except.map]

theorem state_annotate (c : Classifier) (g : Graph) :
    (c.annotate g).state = (c.annotateEdges g g.edges).state := by
  rw [annotate, Outcome.andThen]
  split <;> rfl

/-- The outcomes of a run are the accesses to the ways that the edges had before it. -/
theorem outcomes_annotateEdges {g : Graph} {es : List GraphEdge} {outcomes : List Access}
    (hname : tagsAttribute ∉ c.flagAttributes)
    (h : (c.annotateEdges g es).result = .ok outcomes) : outcomes = es.map (c.wayAccess g) := by
  induction es generalizing g outcomes with
  | nil => exact (Except.ok.inj h).symm
  | cons e es ih =>
    obtain ⟨a, ha, hrest, -⟩ := Outcome.ok_of_andThen h
    obtain ⟨later, hlater, rfl⟩ := Outcome.ok_of_map hrest
    -- The tags of the edges still to come are those that they had at the beginning.
    have hkept : c.wayAccess (c.annotateEdge g e).state = c.wayAccess g := by
      funext e'
      rw [wayAccess, attribute?_annotateEdge g fun _ => hname, wayAccess]
    rw [List.map_cons, ← hkept, ← ih hlater, hkept, wayAccess_of_annotateEdge ha]

/-- Every edge of a run that succeeds has a verdict on the tags that it had before the run. -/
theorem verdict_of_annotateEdges {g : Graph} {es : List GraphEdge} {outcomes : List Access}
    {e : GraphEdge} (htags : tagsAttribute ∉ c.flagAttributes)
    (hnodes : nodesAttribute ∉ c.flagAttributes)
    (h : (c.annotateEdges g es).result = .ok outcomes) (hmem : e ∈ es) :
    ∃ t pair, Tags.ofJson? ((g.attribute? e tagsAttribute).getD .null) = some t ∧
      c.verdict t.isRoundabout t ((g.attribute? e nodesAttribute).getD .null) = .ok pair := by
  induction es generalizing g outcomes with
  | nil => cases hmem
  | cons first es ih =>
    obtain ⟨a, ha, hrest, -⟩ := Outcome.ok_of_andThen h
    obtain ⟨later, hrun, -⟩ := Outcome.ok_of_map hrest
    rcases List.mem_cons.1 hmem with rfl | hmem
    · exact verdict_of_annotateEdge hnodes ha
    · have hlater := ih hrun hmem
      rwa [attribute?_annotateEdge g fun _ => htags, attribute?_annotateEdge g fun _ => hnodes]
        at hlater

/-- **Every edge has its own flags.**  After a run an edge has the access flags that its tags gave
    when the run began, whatever flags it had then. -/
theorem access_annotateEdges {g : Graph} {es : List GraphEdge} {outcomes : List Access}
    {e : GraphEdge} {t : Tags} {pair : Option Directions}
    (htags : tagsAttribute ∉ c.flagAttributes) (hnodes : nodesAttribute ∉ c.flagAttributes)
    (h : (c.annotateEdges g es).result = .ok outcomes) (hmem : e ∈ es)
    (hway : Tags.ofJson? ((g.attribute? e tagsAttribute).getD .null) = some t)
    (hv : c.verdict t.isRoundabout t ((g.attribute? e nodesAttribute).getD .null) = .ok pair) :
    (c.annotateEdges g es).state.attribute? e (attributeName c.accessKey false) =
        some (.bool (pair.getD .closed).forward) ∧
      (c.annotateEdges g es).state.attribute? e (attributeName c.accessKey true) =
        some (.bool (pair.getD .closed).backward) := by
  induction es generalizing g outcomes with
  | nil => cases hmem
  | cons first es ih =>
    obtain ⟨a, ha, hrest, hstate⟩ := Outcome.ok_of_andThen h
    rw [Outcome.state_map] at hstate
    rw [annotateEdges, hstate]
    by_cases hlater : e ∈ es
    · -- What is written now is written again when the edge is met again, from the same tags.
      obtain ⟨later, hrun, -⟩ := Outcome.ok_of_map hrest
      refine ih hrun hlater ?_ ?_
      · rw [attribute?_annotateEdge g fun _ => htags, hway]
      · rw [attribute?_annotateEdge g fun _ => hnodes, hv]
    · -- The edge is not met again, so its flags stay as they are written now.
      obtain rfl : e = first := (List.mem_cons.1 hmem).resolve_right hlater
      rw [attribute?_annotateEdges _ fun he => absurd he hlater,
        attribute?_annotateEdges _ fun he => absurd he hlater,
        state_annotateEdge hnodes hway hv]
      exact attribute?_mark_self ..

end Classifier

end RoadAccess
