import RoadAccess.Proofs.Handling

namespace RoadAccess.Classifier

/-!
# What a failed handling leaves behind

The pair of an edge is written before its first node is read, so a node that cannot be read is met
too late: the edge keeps the pair of its tags, and nothing takes it back.  Every other failure
comes before the first write.

* `nodesFault?` — why the first of some nodes cannot be read;
* `Stuck` — the situation in which handling fails between its writes and its end;
* `failed_handling_leaves` — a handling that fails leaves every flag as it was, unless it is stuck,
  and then it leaves the pair of the tags and no other change;
* `failed_handling_writes` — such a handling, on an edge with no flags at all.
-/

/-! ### Nodes that cannot be read -/

/-- Why the first of some nodes cannot be read: a number or a truth value has none, an object has
    none either, and the first item of a list or the first character of a text has to be an object
    or to say nothing. -/
def nodesFault? : Json → Option Fault
  | .array (node :: _) => if (Tags.ofJson? node).isNone then some .tagsNotObject else none
  | .text s => if s = "" then none else some .tagsNotObject
  | .object fields => if fields.isEmpty then none else some .nodesKeyed
  | nodes => if nodes.truthy then some .nodesNotIndexable else none

/-- A single character says something and is no object. -/
theorem ofJson?_character (c : Char) : Tags.ofJson? (.text c.toString) = none := by
  have hne : c.toString ≠ "" := fun h => by
    have hlen := congrArg String.length h
    simp at hlen
  rw [Tags.ofJson?_eq_none_iff]
  exact ⟨decide_eq_true hne, nofun⟩

/-- The first node of a text that says something is its first character. -/
theorem firstNode?_text {s : String} (hs : s ≠ "") :
    ∃ c : Char, firstNode? (.text s) = .ok (some (.text c.toString)) := by
  have hlist : s.toList ≠ [] := fun h => hs (String.toList_eq_nil_iff.1 h)
  obtain ⟨c, rest, hc⟩ := List.exists_cons_of_ne_nil hlist
  exact ⟨c, by simp [firstNode?, Json.truthy, hs, hc]⟩

theorem blocks_eq_error_iff (c : Classifier) (node : Json) (f : Fault) :
    c.blocks node = .error f ↔ Tags.ofJson? node = none ∧ .tagsNotObject = f := by
  unfold blocks
  cases Tags.ofJson? node <;> simp

/-- Nodes are asked for their first one on edges that stand for a point barrier, and only there can
    they fail. -/
theorem closes_eq_error_iff (c : Classifier) (t : Tags) (nodes : Json) (f : Fault) :
    c.closes t nodes = .error f ↔ t.has barrierEdgeTag = true ∧ nodesFault? nodes = some f := by
  unfold closes
  by_cases ht : t.has barrierEdgeTag = true
  · rw [if_pos ht]
    simp only [ht, true_and]
    cases nodes with
    | null => simp [firstNode?, nodesFault?, Json.truthy]
    | bool b => cases b <;> simp [firstNode?, nodesFault?, Json.truthy]
    | int n => by_cases hn : n = 0 <;> simp [firstNode?, nodesFault?, Json.truthy, hn]
    | real x => cases hx : x.isZero <;> simp [firstNode?, nodesFault?, Json.truthy, hx]
    | text s =>
      by_cases hs : s = ""
      · simp [firstNode?, nodesFault?, Json.truthy, hs]
      · obtain ⟨ch, hch⟩ := firstNode?_text hs
        rw [hch]
        show c.blocks (.text ch.toString) = .error f ↔ nodesFault? (.text s) = some f
        rw [blocks_eq_error_iff, ofJson?_character]
        simp [nodesFault?, hs]
    | array items =>
      cases items with
      | nil => simp [firstNode?, nodesFault?]
      | cons node rest =>
        show c.blocks node = .error f ↔ nodesFault? (.array (node :: rest)) = some f
        rw [blocks_eq_error_iff]
        cases hn : Tags.ofJson? node <;> simp [nodesFault?, hn]
    | object fields => cases fields <;> simp [firstNode?, nodesFault?]
  · simp [ht]

/-- There is no verdict on a way exactly if its nodes are asked for and cannot be read. -/
theorem verdict_eq_error_iff {c : Classifier} {roundabout : Bool} {t : Tags} {nodes : Json} {f : Fault} :
    c.verdict roundabout t nodes = .error f ↔
      c.access t ≠ .skip ∧ t.has barrierEdgeTag = true ∧ nodesFault? nodes = some f := by
  cases hd : c.senses roundabout t with
  | none =>
    have ha := (c.senses_eq_none_iff roundabout t).1 hd
    rw [verdict_of_skip ha]
    simp [ha]
  | some d =>
    have ha := access_ne_skip hd
    rw [verdict_of_senses hd, ← closes_eq_error_iff]
    cases c.closes t nodes <;> simp [Except.map, ha]

/-! ### Failures -/

variable {σ ε : Type} [DecidableEq ε] [FlagStore σ ε] [LawfulFlagStore σ ε]

open LawfulFlagStore

/-- Handling gets stuck between its writes and its end: the way enters the network, the edge can
    hold flags and stands for a point barrier, and the first of its nodes cannot be read. -/
def Stuck (c : Classifier) (s : σ) (e : ε) (way nodes : Json) : Prop :=
  ∃ t, Tags.ofJson? way = some t ∧ c.access t ≠ .skip ∧ FlagStore.fault? s e = none ∧
    t.has barrierEdgeTag = true ∧ (nodesFault? nodes).isSome = true

/-- A handling that is not stuck fails before its first write. -/
theorem state_of_error {c : Classifier} {s : σ} {e : ε} {way nodes : Json} {f : Fault}
    (hstuck : ¬ c.Stuck s e way nodes) (h : (c.handle s e way nodes).result = .error f) :
    (c.handle s e way nodes).state = s := by
  cases c.handled s e way nodes with
  | unreadable _ hstate _ => exact hstate
  | skipped _ _ _ hstate _ => exact hstate
  | unusable _ _ _ _ _ hstate _ => exact hstate
  | stuck t d f' hw hs hd hc _ _ =>
    obtain ⟨ht, hn⟩ := (c.closes_eq_error_iff t nodes f').1 hc
    exact absurd ⟨t, hw, access_ne_skip hd, hs, ht, by rw [hn]; rfl⟩ hstuck
  | settled _ _ _ _ _ _ _ _ hresult =>
    rw [hresult] at h
    cases h

/-- A handling that is stuck has written the pair of the tags, and fails. -/
theorem state_of_stuck {c : Classifier} {s : σ} {e : ε} {way nodes : Json}
    (hstuck : c.Stuck s e way nodes) :
    (∃ f, (c.handle s e way nodes).result = .error f) ∧
      ∃ t d, Tags.ofJson? way = some t ∧
        c.senses (FlagStore.get s (c.roundaboutSlot e)) t = some d ∧
        (c.handle s e way nodes).state = c.mark s e d := by
  obtain ⟨t, hw, ha, hs, ht, hn⟩ := hstuck
  obtain ⟨f, hf⟩ := Option.isSome_iff_exists.1 hn
  have hc := (c.closes_eq_error_iff t nodes f).2 ⟨ht, hf⟩
  cases hd : c.senses (FlagStore.get s (c.roundaboutSlot e)) t with
  | none => exact absurd ((c.senses_eq_none_iff _ t).1 hd) ha
  | some d =>
    rw [handle_of_tags hw]
    refine ⟨⟨f, ?_⟩, t, d, hw, hd, state_handleTags_of_error hs hd hc⟩
    rw [result_handleTags hs, verdict_of_senses hd, hc]
    rfl

/-- **What a failed handling leaves behind.**  Every flag is as it was, unless the first node of an
    edge that stands for a point barrier cannot be read; then the two access flags of the edge hold
    the senses in which its tags alone open it, and every other flag is as it was. -/
theorem failed_handling_leaves (c : Classifier) (s : σ) (e : ε) (way nodes : Json) :
    (¬ c.Stuck s e way nodes → ∀ f, (c.handle s e way nodes).result = .error f →
      ∀ slot, FlagStore.get (c.handle s e way nodes).state slot = FlagStore.get s slot) ∧
    (c.Stuck s e way nodes →
      (∃ f, (c.handle s e way nodes).result = .error f) ∧
      ∃ t d, Tags.ofJson? way = some t ∧
        c.senses (FlagStore.get s (c.roundaboutSlot e)) t = some d ∧
        ∀ slot, FlagStore.get (c.handle s e way nodes).state slot =
          if place σ slot = place σ (c.accessSlot e true) then d.backward
          else if place σ slot = place σ (c.accessSlot e false) then d.forward
          else FlagStore.get s slot) := by
  constructor
  · intro hstuck f h slot
    rw [state_of_error hstuck h]
  · intro hstuck
    obtain ⟨hfails, t, d, hw, hd, hstate⟩ := state_of_stuck hstuck
    refine ⟨hfails, t, d, hw, hd, fun slot => ?_⟩
    rw [hstate, get_mark]

/-- A ferry whose first node is a number leaves its edge open; tags that cannot be read leave it as
    it was. -/
theorem failed_handling_leaves_ferry :
    let c : Classifier := {}
    let g := Graph.empty.addEdge (.int 1, .int 2) []
    let ferry := Json.object [("route", .text "ferry"), ("barrier_edge", .text "yes")]
    c.Stuck g (.int 1, .int 2) ferry (.array [.int 5]) ∧
      (∃ f, (c.handle g (.int 1, .int 2) ferry (.array [.int 5])).result = .error f) ∧
      FlagStore.get (c.handle g (.int 1, .int 2) ferry (.array [.int 5])).state
        ⟨"bike_access", (.int 1, .int 2), true⟩ = true ∧
      ¬ c.Stuck g (.int 1, .int 2) (.text "ferry") .null ∧
      (c.handle g (.int 1, .int 2) (.text "ferry") .null).result = .error .tagsNotObject ∧
      FlagStore.get (c.handle g (.int 1, .int 2) (.text "ferry") .null).state
        ⟨"bike_access", (.int 1, .int 2), true⟩ = false := by
  intro c g ferry
  have hstuck : c.Stuck g (.int 1, .int 2) ferry (.array [.int 5]) :=
    ⟨_, rfl, by decide, by decide, by decide, by decide⟩
  have hnot : ¬ c.Stuck g (.int 1, .int 2) (.text "ferry") .null := nofun
  obtain ⟨hfails, t, d, hw, hd, hflags⟩ :=
    (failed_handling_leaves c g (.int 1, .int 2) ferry (.array [.int 5])).2 hstuck
  have hkept := (failed_handling_leaves c g (.int 1, .int 2) (.text "ferry") .null).1 hnot
    .tagsNotObject rfl ⟨"bike_access", (.int 1, .int 2), true⟩
  refine ⟨hstuck, hfails, ?_, hnot, rfl, hkept⟩
  obtain rfl := Option.some.inj hw
  have hboth : d = .both := Option.some.inj (hd.symm.trans rfl)
  rw [hflags, hboth]
  rfl

/-- Handling is not all or nothing: with nodes that are a number, the edge of a point barrier is
    left open by a handling that fails. -/
theorem failed_handling_writes :
    ¬ ∀ (c : Classifier) (s : FlagTable) (e : Identifier) (way nodes : Json) (f : Fault),
      (c.handle s e way nodes).result = .error f →
        ∀ slot, (c.handle s e way nodes).state.get slot = s.get slot := by
  intro h
  have hflag := h {} .empty (.int 1)
    (.object [("highway", .text "tertiary"), ("barrier_edge", .text "yes")]) (.int 5)
    .nodesNotIndexable rfl ⟨"bike_access", .int 1, false⟩
  exact absurd hflag (by decide)

end RoadAccess.Classifier
