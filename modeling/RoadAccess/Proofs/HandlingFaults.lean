import RoadAccess.Proofs.Failure
import RoadAccess.Proofs.Hierarchy

namespace RoadAccess

/-!
# When handling a way fails

Handling fails for what it is given and never for what the table holds.  Tags that cannot be read come
first, an edge that identifies nothing second, and nodes that cannot be read last; the latter two count
only for a way that enters the network, and nodes only on an edge that stands for a point barrier.

* `Json.Untagged` — a value that describes no tags;
* `Classifier.NodesFail`, `Classifier.Fails` — the nodes that cannot be read, and all situations in which
  handling fails, each with its fault and kind of error;
* `Classifier.nodesFault?_eq_some_iff` — there are no other such nodes;
* `Classifier.result_handle_eq_error_iff`, `Classifier.result_handle_eq_ok_iff` — handling fails in these
  situations, and answers with the access to the way in all others;
* `Classifier.eq_object_of_blocks`, `Classifier.blocks_of_mem_events_handle` — a node that is reported
  has fields to show;
* `handling_fails_exactly` — the whole.
-/

/-- The value says something and is no object, so it describes no tags. -/
def Json.Untagged (v : Json) : Prop := v.truthy = true ∧ ∀ fields, v ≠ .object fields

/-- A node without tags blocks nobody. -/
theorem Profile.isBarrier_empty (p : Profile) : p.isBarrier Tags.empty = false := by
  have hrestriction : p.restriction Tags.empty = .noMatch := by
    apply restrictionAmong_of_void
    intro key _ value hvalue
    cases hvalue
  rw [isBarrier, hrestriction]
  simp [Tags.hasValue, Tags.hasAny]

namespace Classifier

/-! ### The situations -/

/-- Nodes that say something and whose first one cannot be read: there is none in a number, a truth
    value or an object, and in a text or a list it has no tags. -/
inductive NodesFail : Json → Fault → ErrorKind → Prop
  | bool {b : Bool} (h : (Json.bool b).truthy = true) :
      NodesFail (.bool b) .nodesNotIndexable .type
  | int {n : Int} (h : (Json.int n).truthy = true) : NodesFail (.int n) .nodesNotIndexable .type
  | real {x : Binary64} (h : (Json.real x).truthy = true) :
      NodesFail (.real x) .nodesNotIndexable .type
  | object {fields : List (String × Json)} (h : (Json.object fields).truthy = true) :
      NodesFail (.object fields) .nodesKeyed .key
  | text {s : String} (h : (Json.text s).truthy = true) : NodesFail (.text s) .tagsNotObject .attribute
  | first {node : Json} {rest : List Json} (h : node.Untagged) :
      NodesFail (.array (node :: rest)) .tagsNotObject .attribute

/-- The situations in which handling a way fails, each with its fault and the kind of error that it
    is. -/
inductive Fails (c : Classifier) (e : Identifier) (way nodes : Json) : Fault → ErrorKind → Prop
  /-- The way has no tags. -/
  | tags (hway : way.Untagged) : Fails c e way nodes .tagsNotObject .attribute
  /-- The way enters the network and its edge identifies nothing. -/
  | edge {t : Tags} (hway : Tags.ofJson? way = some t) (haccess : c.access t ≠ .skip)
      (hedge : e.hashable = false) : Fails c e way nodes .edgeNotHashable .type
  /-- The way enters the network, its edge stands for a point barrier, and its nodes cannot be
      read. -/
  | nodes {t : Tags} {f : Fault} {kind : ErrorKind} (hway : Tags.ofJson? way = some t)
      (haccess : c.access t ≠ .skip) (hedge : e.hashable = true)
      (hbarrier : t.has barrierEdgeTag = true) (hnodes : NodesFail nodes f kind) :
      Fails c e way nodes f kind

theorem NodesFail.kind_eq {nodes : Json} {f : Fault} {kind : ErrorKind} (h : NodesFail nodes f kind) :
    f.kind = kind := by
  cases h <;> rfl

/-- The kind of error is that of the fault. -/
theorem Fails.kind_eq {c : Classifier} {e : Identifier} {way nodes : Json} {f : Fault}
    {kind : ErrorKind} (h : c.Fails e way nodes f kind) : f.kind = kind := by
  cases h with
  | tags | edge => rfl
  | nodes _ _ _ _ hnodes => exact hnodes.kind_eq

/-- The nodes that cannot be read are just these. -/
theorem nodesFault?_eq_some_iff (nodes : Json) (f : Fault) :
    nodesFault? nodes = some f ↔ NodesFail nodes f f.kind := by
  constructor
  · intro h
    -- Each shape of value has one fault, behind a test for values that say nothing.
    cases nodes with
    | null => cases h
    | bool b =>
      obtain ⟨htruthy, ⟨⟩⟩ := Option.ite_none_right_eq_some.1 h
      exact .bool htruthy
    | int n =>
      obtain ⟨htruthy, ⟨⟩⟩ := Option.ite_none_right_eq_some.1 h
      exact .int htruthy
    | real x =>
      obtain ⟨htruthy, ⟨⟩⟩ := Option.ite_none_right_eq_some.1 h
      exact .real htruthy
    | text s =>
      obtain ⟨hne, ⟨⟩⟩ := Option.ite_none_left_eq_some.1 h
      exact .text (decide_eq_true hne)
    | array items =>
      cases items with
      | nil => cases h
      | cons node rest =>
        obtain ⟨hnone, ⟨⟩⟩ := Option.ite_none_right_eq_some.1 h
        exact .first ((Tags.ofJson?_eq_none_iff node).1 (Option.isNone_iff_eq_none.1 hnone))
    | object fields =>
      obtain ⟨hne, ⟨⟩⟩ := Option.ite_none_left_eq_some.1 h
      exact .object (by simpa using hne)
  · intro h
    cases h with
    | bool htruthy => exact if_pos htruthy
    | int htruthy => exact if_pos htruthy
    | real htruthy => exact if_pos htruthy
    | object htruthy => exact if_neg (by simpa using htruthy)
    | text htruthy => exact if_neg (of_decide_eq_true htruthy)
    | @first node rest huntagged =>
      exact if_pos (Option.isNone_iff_eq_none.2 ((Tags.ofJson?_eq_none_iff node).2 huntagged))

/-! ### Faults and answers -/

variable {c : Classifier} {s : FlagTable} {e : Identifier} {way nodes : Json} {f : Fault}
  {kind : ErrorKind}

/-- In the stated situations handling fails. -/
theorem result_handle_of_fails (h : c.Fails e way nodes f kind) :
    (c.handle s e way nodes).result = .error f := by
  cases h with
  | tags hway => rw [handle_of_unreadable ((Tags.ofJson?_eq_none_iff way).2 hway)]; rfl
  | edge hway haccess hedge =>
    rw [handle_of_tags hway,
      handleTags_of_fault haccess ((s.fault?_eq_some_iff e _).2 ⟨hedge, rfl⟩)]
    rfl
  | nodes hway haccess hedge hbarrier hnodes =>
    have hfault := (nodesFault?_eq_some_iff nodes f).2 (hnodes.kind_eq ▸ hnodes)
    rw [handle_of_tags hway, result_handleTags ((s.fault?_eq_none_iff e).2 hedge),
      verdict_eq_error_iff.2 ⟨haccess, hbarrier, hfault⟩]
    rfl

/-- In no other one it does. -/
theorem result_handle_eq_error_iff :
    (c.handle s e way nodes).result = .error f ∧ f.kind = kind ↔ c.Fails e way nodes f kind := by
  constructor
  · rintro ⟨h, rfl⟩
    -- Of the five cases of handling three fail.
    cases c.handled s e way nodes with
    | unreadable hw _ hresult =>
      obtain rfl := Except.error.inj (hresult.symm.trans h)
      exact .tags ((Tags.ofJson?_eq_none_iff way).1 hw)
    | skipped t hw ha _ hresult => cases hresult.symm.trans h
    | unusable t f' hw ha hs _ hresult =>
      obtain rfl := Except.error.inj (hresult.symm.trans h)
      obtain ⟨hedge, rfl⟩ := (s.fault?_eq_some_iff e f').1 hs
      exact .edge hw ha hedge
    | stuck t d f' hw hs hd hc _ hresult =>
      obtain rfl := Except.error.inj (hresult.symm.trans h)
      obtain ⟨hbarrier, hnodes⟩ := (c.closes_eq_error_iff t nodes f').1 hc
      exact .nodes hw (access_ne_skip hd) ((s.fault?_eq_none_iff e).1 hs) hbarrier
        ((nodesFault?_eq_some_iff nodes f').1 hnodes)
    | settled t d b hw hs hd hc _ hresult => cases hresult.symm.trans h
  · intro h
    exact ⟨result_handle_of_fails h, h.kind_eq⟩

/-- In every other situation handling answers with the access to the way. -/
theorem result_handle_eq_ok_iff {a : Access} :
    (c.handle s e way nodes).result = .ok a ↔
      (∀ f kind, ¬ c.Fails e way nodes f kind) ∧ ∃ t, Tags.ofJson? way = some t ∧ c.access t = a := by
  constructor
  · intro h
    refine ⟨fun f kind hf => ?_, ?_⟩
    · rw [result_handle_of_fails hf] at h
      cases h
    · cases hw : Tags.ofJson? way with
      | none =>
        rw [handle_of_unreadable hw] at h
        cases h
      | some t =>
        rw [handle_of_tags hw] at h
        exact ⟨t, rfl, eq_access_of_handleTags h⟩
  · rintro ⟨hnot, t, hw, rfl⟩
    cases hresult : (c.handle s e way nodes).result with
    | error f => exact absurd (result_handle_eq_error_iff.1 ⟨hresult, rfl⟩) (hnot f _)
    | ok a =>
      rw [handle_of_tags hw] at hresult
      rw [eq_access_of_handleTags hresult]

/-! ### What is reported -/

/-- A node that blocks is an object with fields. -/
theorem eq_object_of_blocks {node : Json} (h : c.blocks node = .ok true) :
    ∃ fields, node = .object fields ∧ fields ≠ [] := by
  rw [blocks_eq_true_iff, Option.any_eq_true] at h
  obtain ⟨t, ht, hbarrier⟩ := h
  have htruthy : node.truthy = true := by
    by_contra hnot
    have hempty : Tags.ofJson? node = some .empty := if_neg hnot
    obtain rfl := Option.some.inj (ht.symm.trans hempty)
    rw [Profile.isBarrier_empty] at hbarrier
    cases hbarrier
  -- A value that describes tags and says something can only be an object.
  by_contra hnone
  have huntagged : node.Untagged := by
    refine ⟨htruthy, ?_⟩
    rintro fields rfl
    exact hnone ⟨fields, rfl, by simpa using htruthy⟩
  rw [(Tags.ofJson?_eq_none_iff node).2 huntagged] at ht
  cases ht

section Events

variable {σ ε : Type} [FlagStore σ ε] {s : σ} {e : ε} {edge : String} {shown : Json}

theorem blocks_of_mem_events_block {node : Json}
    (h : .blocked edge shown ∈ (c.block s e node).events) : c.blocks shown = .ok true := by
  unfold block at h
  cases ht : Tags.ofJson? node with
  | none =>
    rw [ht] at h
    cases h
  | some t =>
    simp only [ht] at h
    cases hb : c.profile.isBarrier t with
    | false =>
      simp only [hb] at h
      cases h
    | true =>
      have hshown : shown = node := by
        simp only [hb, if_true] at h
        split at h <;> exact (Event.blocked.inj (List.mem_singleton.1 h)).2
      rw [hshown, blocks_eq_true_iff, ht]
      exact hb

theorem blocks_of_mem_events_blockFirst {t : Tags}
    (h : .blocked edge shown ∈ (c.blockFirst s e t nodes).events) : c.blocks shown = .ok true := by
  unfold blockFirst at h
  split at h
  · split at h
    · cases h
    · cases h
    · exact blocks_of_mem_events_block h
  · cases h

/-- Only a node that blocks is reported to block. -/
theorem blocks_of_mem_events_handle
    (h : .blocked edge shown ∈ (c.handle s e way nodes).events) : c.blocks shown = .ok true := by
  cases hw : Tags.ofJson? way with
  | none =>
    rw [handle_of_unreadable hw] at h
    cases h
  | some t =>
    rw [handle_of_tags hw, handleTags] at h
    split at h
    · simp at h
    · split at h
      · cases h
      · exact blocks_of_mem_events_blockFirst h

end Events

end Classifier

/-- **When handling a way fails.**  It fails exactly in the stated situations, with their faults and
    kinds of error and whatever the table holds; in all others it answers with the access to the way.  A
    node that is reported to block its edge always has fields to show. -/
theorem handling_fails_exactly (c : Classifier) (s : FlagTable) (e : Identifier) (way nodes : Json) :
    (∀ f kind, (c.handle s e way nodes).result = .error f ∧ f.kind = kind ↔
      c.Fails e way nodes f kind) ∧
    (∀ a, (c.handle s e way nodes).result = .ok a ↔
      (∀ f kind, ¬ c.Fails e way nodes f kind) ∧ ∃ t, Tags.ofJson? way = some t ∧ c.access t = a) ∧
    (∀ edge node, .blocked edge node ∈ (c.handle s e way nodes).events →
      ∃ fields, node = .object fields ∧ fields ≠ []) := by
  refine ⟨?_, ?_, ?_⟩
  · exact fun f kind => Classifier.result_handle_eq_error_iff
  · exact fun a => Classifier.result_handle_eq_ok_iff
  · exact fun edge node h => Classifier.eq_object_of_blocks (Classifier.blocks_of_mem_events_handle h)

/-- A point barrier whose node is a text fails, and before that an edge that identifies nothing; a node
    that says nothing does no harm, and neither does anything on a motorway, which stays out. -/
theorem handling_fails_at_barriers :
    let c : Classifier := {}
    let path := Json.object [("highway", .text "path"), ("barrier_edge", .text "yes")]
    let motorway := Json.object [("highway", .text "motorway"), ("barrier_edge", .text "yes")]
    let nothing := Identifier.record "\x7b\x7d"
    ((c.handle FlagTable.empty (.int 1) path (.array [.text "fence"])).result =
        .error .tagsNotObject ∧ Fault.tagsNotObject.kind = .attribute) ∧
      ((c.handle FlagTable.empty nothing path (.array [.text "fence"])).result =
        .error .edgeNotHashable ∧ Fault.edgeNotHashable.kind = .type) ∧
      (c.handle FlagTable.empty (.int 1) path (.array [.null])).result = .ok .routable ∧
      (c.handle FlagTable.empty nothing motorway (.array [.text "fence"])).result = .ok .skip := by
  intro c path motorway nothing
  have hpath : Tags.ofJson? path = some ⟨[("highway", "path"), ("barrier_edge", "yes")]⟩ := by decide
  have hmotorway : Tags.ofJson? motorway =
      some ⟨[("highway", "motorway"), ("barrier_edge", "yes")]⟩ := by decide
  refine ⟨?_, ?_, ?_, ?_⟩
  · refine ((handling_fails_exactly c .empty (.int 1) path _).1 _ _).2 ?_
    exact .nodes hpath (by decide) rfl (by decide) (.first ⟨rfl, nofun⟩)
  · refine ((handling_fails_exactly c .empty nothing path _).1 _ _).2 ?_
    exact .edge hpath (by decide) rfl
  · refine ((handling_fails_exactly c .empty (.int 1) path _).2.1 _).2 ⟨?_, _, hpath, by decide⟩
    intro f kind hfails
    cases hfails with
    | tags hway => exact hway.2 _ rfl
    | edge _ _ hedge => cases hedge
    | nodes _ _ _ _ hnodes =>
      cases hnodes with
      | first hnode => cases hnode.1
  · refine ((handling_fails_exactly c .empty nothing motorway _).2.1 _).2
      ⟨?_, _, hmotorway, by decide⟩
    intro f kind hfails
    cases hfails with
    | tags hway => exact hway.2 _ rfl
    | edge hway haccess _ =>
      obtain rfl := Option.some.inj (hmotorway.symm.trans hway)
      exact haccess (by decide)
    | nodes _ _ hedge _ _ => cases hedge

end RoadAccess
