import Mathlib.Data.Set.Basic
import RoadAccess.Proofs.Calls
import RoadAccess.Proofs.Graphs

namespace RoadAccess

/-!
# A graph as a store of flags

A graph keeps the flags of an edge among its attributes, under names made from the keys, and a table
in memory keeps them under the keys themselves.  As long as no key is another one with the ending of
the sense against the geometry, nobody who works through calls can tell the two apart.

* `Graph.attributeName_eq_iff` — which slots of an edge share an attribute;
* `Mirrors` — a graph and a table agree on the flags of some edges under some keys;
  `Mirrors.set` — a write to both keeps the agreement;
* `Outcome.Matches` — two steps report and answer the same and leave stores that agree;
* `Classifier.matches_handle`, `Classifier.matches_perform` — every call is matched by the same call
  on the other store; `Classifier.mirrors_after` — and so is every run of calls;
* `graph_mirrors_table` — the whole.
-/

/-! ### The same slots and calls under other edges -/

section

variable {ε ε' : Type}

/-- The same slot of another edge. -/
def Slot.map (f : ε → ε') (slot : Slot ε) : Slot ε' := ⟨slot.key, f slot.edge, slot.reverse⟩

/-- The same call for another edge. -/
def Call.map (f : ε → ε') : Call ε → Call ε'
  | .handle edge way nodes => .handle (f edge) way nodes
  | .block edge node => .block (f edge) node
  | .read slot => .read (slot.map f)
  | .write slot value => .write (slot.map f) value

/-- The keys that a call names itself are among these. -/
def Call.KeysIn (keys : Set String) : Call ε → Prop
  | .read slot | .write slot _ => slot.key ∈ keys
  | _ => True

theorem Slot.map_injective {f : ε → ε'} (hf : Function.Injective f) :
    Function.Injective (Slot.map f) := by
  rintro ⟨key, e, reverse⟩ ⟨key', e', reverse'⟩ h
  obtain ⟨hkey, hedge, hreverse⟩ := Slot.mk.inj h
  exact congr (congr (congrArg Slot.mk hkey) (hf hedge)) hreverse

end

/-! ### Stores that can hold the flags of an edge -/

namespace FlagStore

variable {σ ε : Type} [FlagStore σ ε]

theorem read_of_usable {s : σ} {slot : Slot ε} (h : fault? s slot.edge = none) :
    read s slot = .ok (get s slot) := by
  rw [read, h]

theorem write_of_usable {s : σ} {slot : Slot ε} (h : fault? s slot.edge = none) (b : Bool) :
    write s slot b = .ok (set s slot b) := by
  rw [write, h]

end FlagStore

/-! ### Names of attributes -/

namespace Graph

/-- Two slots of an edge share an attribute if they are the same, or if one key is the other with the
    ending of the sense against the geometry, read along the geometry. -/
theorem attributeName_eq_iff (key key' : String) (reverse reverse' : Bool) :
    attributeName key reverse = attributeName key' reverse' ↔
      (key = key' ∧ reverse = reverse') ∨
      (key = key' ++ "_reverse" ∧ reverse = false ∧ reverse' = true) ∨
      (key' = key ++ "_reverse" ∧ reverse = true ∧ reverse' = false) := by
  cases reverse <;> cases reverse' <;> simp [attributeName, eq_comm]

/-- No key is another one with the ending of the sense against the geometry. -/
def KeysApart (keys : Set String) : Prop := ∀ key ∈ keys, ∀ key' ∈ keys, key ≠ key' ++ "_reverse"

/-- Under such keys every slot of an edge has an attribute of its own. -/
theorem eq_of_attributeName_eq {keys : Set String} (h : KeysApart keys) {slot slot' : Slot GraphEdge}
    (hkey : slot.key ∈ keys) (hkey' : slot'.key ∈ keys) (hedge : slot.edge = slot'.edge)
    (hname : attributeName slot.key slot.reverse = attributeName slot'.key slot'.reverse) :
    slot = slot' := by
  obtain ⟨key, e, reverse⟩ := slot
  obtain ⟨key', e', reverse'⟩ := slot'
  obtain rfl : e = e' := hedge
  rcases (attributeName_eq_iff key key' reverse reverse').1 hname with ⟨rfl, rfl⟩ | hlong | hlong
  · rfl
  · exact absurd hlong.1 (h key hkey key' hkey')
  · exact absurd hlong.1 (h key' hkey' key hkey)

/-- The identifier under which a table keeps the flags of an edge. -/
def identifier (e : GraphEdge) : Identifier := .tuple [e.1, e.2]

theorem identifier_injective : Function.Injective identifier := by
  rintro ⟨u, v⟩ ⟨u', v'⟩ h
  simpa [identifier] using h

/-- Every edge leads between nodes that are identified by something that can be looked up, as the
    nodes of a graph always are. -/
def Identified (g : Graph) : Prop :=
  ∀ e, g.hasEdge e = true → e.1.hashable = true ∧ e.2.hashable = true

theorem identified_empty : empty.Identified := nofun

theorem identified_addEdge {g : Graph} (h : g.Identified) {e : GraphEdge}
    (he : e.1.hashable = true ∧ e.2.hashable = true) (as : Attributes) :
    (g.addEdge e as).Identified := by
  intro e' he'
  by_cases heq : e' = e
  · exact heq ▸ he
  · rw [hasEdge, attributes?_addEdge, if_neg heq] at he'
    exact h e' he'

theorem hashable_identifier {e : GraphEdge} (h : e.1.hashable = true ∧ e.2.hashable = true) :
    (identifier e).hashable = true := by
  simp [identifier, Identifier.hashable, Identifier.allHashable, h]

end Graph

open RoadAccess.Graph

/-! ### Stores that agree -/

/-- A graph and a table agree on these edges and keys: both can hold flags of the edges, and they hold
    the same. -/
structure Mirrors (keys : Set String) (edges : Set GraphEdge) (g : Graph) (t : FlagTable) : Prop where
  hasEdge : ∀ e ∈ edges, g.hasEdge e = true
  hashable : ∀ e ∈ edges, (identifier e).hashable = true
  flag_eq : ∀ slot : Slot GraphEdge, slot.key ∈ keys → slot.edge ∈ edges →
    g.flag slot = t.get (slot.map identifier)

/-- Two steps report and answer the same and leave stores that are related. -/
structure Outcome.Matches {φ ω σ τ α : Type} (R : σ → τ → Prop) (o : Outcome φ ω σ α)
    (o' : Outcome φ ω τ α) : Prop where
  state : R o.state o'.state
  events : o.events = o'.events
  result : o.result = o'.result

theorem Outcome.Matches.map {φ ω σ τ α β : Type} {R : σ → τ → Prop} {o : Outcome φ ω σ α}
    {o' : Outcome φ ω τ α} (h : o.Matches R o') (f : α → β) : (o.map f).Matches R (o'.map f) where
  state := h.state
  events := h.events
  result := congrArg (Except.map f) h.result

namespace Mirrors

variable {keys : Set String} {edges : Set GraphEdge} {g : Graph} {t : FlagTable} {e : GraphEdge}

theorem fault?_graph (h : Mirrors keys edges g t) (he : e ∈ edges) :
    FlagStore.fault? g e = none :=
  if_pos (h.hasEdge e he)

theorem fault?_table (h : Mirrors keys edges g t) (he : e ∈ edges) :
    FlagStore.fault? t (identifier e) = none :=
  if_pos (h.hashable e he)

theorem read_graph (h : Mirrors keys edges g t) {slot : Slot GraphEdge} (he : slot.edge ∈ edges) :
    FlagStore.read g slot = .ok (g.flag slot) :=
  FlagStore.read_of_usable (h.fault?_graph he)

/-- A flag under one of the keys reads the same from both. -/
theorem read_table (h : Mirrors keys edges g t) {slot : Slot GraphEdge} (hkey : slot.key ∈ keys)
    (he : slot.edge ∈ edges) :
    FlagStore.read t (slot.map identifier) = .ok (g.flag slot) := by
  rw [h.flag_eq slot hkey he]
  exact FlagStore.read_of_usable (h.fault?_table he)

/-- A flag that is written to both is read back from both, and no other flag under these keys is
    touched in either. -/
theorem set (h : Mirrors keys edges g t) (hkeys : KeysApart keys) (slot : Slot GraphEdge)
    (hkey : slot.key ∈ keys) (hedge : slot.edge ∈ edges) (b : Bool) :
    Mirrors keys edges (g.setFlag slot b) (t.set (slot.map identifier) b) where
  hasEdge e he := by
    rw [setFlag, hasEdge_setAttribute, h.hasEdge e he, Bool.or_true]
  hashable := h.hashable
  flag_eq slot' hkey' hedge' := by
    rw [FlagTable.get_set]
    by_cases heq : slot' = slot
    · subst heq
      rw [if_pos rfl]
      exact (LawfulFlagStore.get_set g slot' slot' b).trans (if_pos rfl)
    · -- The graph has another attribute for the other slot.
      rw [if_neg ((Slot.map_injective identifier_injective).ne heq), ← h.flag_eq slot' hkey' hedge']
      refine (LawfulFlagStore.get_set g slot slot' b).trans (if_neg fun hplace => heq ?_)
      obtain ⟨hname, hsame, -⟩ := Slot.mk.inj hplace
      exact eq_of_attributeName_eq hkeys hkey' hkey hsame hname

end Mirrors

namespace Classifier

variable {c : Classifier} {keys : Set String} {edges : Set GraphEdge} {g : Graph} {t : FlagTable}
  {e : GraphEdge}

/-! ### Every step is matched -/

theorem mirrors_mark (hkeys : KeysApart keys) (haccess : c.accessKey ∈ keys)
    (h : Mirrors keys edges g t) (he : e ∈ edges) (d : Directions) :
    Mirrors keys edges (c.mark g e d) (c.mark t (identifier e) d) :=
  (h.set hkeys (c.accessSlot e false) haccess he d.forward).set hkeys (c.accessSlot e true) haccess he
    d.backward

theorem matches_block (hkeys : KeysApart keys) (haccess : c.accessKey ∈ keys)
    (h : Mirrors keys edges g t) (he : e ∈ edges) (node : Json) :
    (c.block g e node).Matches (Mirrors keys edges) (c.block t (identifier e) node) := by
  unfold block
  cases Tags.ofJson? node with
  | none => exact ⟨h, rfl, rfl⟩
  | some tags =>
    dsimp only
    cases c.profile.isBarrier tags with
    | false => exact ⟨h, rfl, rfl⟩
    | true =>
      rw [if_pos rfl, if_pos rfl, h.fault?_graph he, h.fault?_table he]
      exact ⟨mirrors_mark hkeys haccess h he .closed, rfl, rfl⟩

theorem matches_blockFirst (hkeys : KeysApart keys) (haccess : c.accessKey ∈ keys)
    (h : Mirrors keys edges g t) (he : e ∈ edges) (tags : Tags) (nodes : Json) :
    (c.blockFirst g e tags nodes).Matches (Mirrors keys edges)
      (c.blockFirst t (identifier e) tags nodes) := by
  unfold blockFirst
  split
  · cases firstNode? nodes with
    | error f => exact ⟨h, rfl, rfl⟩
    | ok node? =>
      cases node? with
      | none => exact ⟨h, rfl, rfl⟩
      | some node => exact matches_block hkeys haccess h he node
  · exact ⟨h, rfl, rfl⟩

/-- **Handling a way on a graph is handling it on a table.** -/
theorem matches_handle (hkeys : KeysApart keys) (haccess : c.accessKey ∈ keys)
    (hround : c.roundaboutKey ∈ keys) (h : Mirrors keys edges g t) (he : e ∈ edges)
    (way nodes : Json) :
    (c.handle g e way nodes).Matches (Mirrors keys edges)
      (c.handle t (identifier e) way nodes) := by
  cases hway : Tags.ofJson? way with
  | none =>
    rw [handle_of_unreadable hway, handle_of_unreadable hway]
    exact ⟨h, rfl, rfl⟩
  | some tags =>
    rw [handle_of_tags hway, handle_of_tags hway]
    -- The roundabout flag is the only one that handling reads, and the two agree on it.
    have hflag : FlagStore.get g (c.roundaboutSlot e) =
        FlagStore.get t (c.roundaboutSlot (identifier e)) :=
      h.flag_eq (c.roundaboutSlot e) hround he
    cases hd : c.senses (FlagStore.get g (c.roundaboutSlot e)) tags with
    | none =>
      have ha := (c.senses_eq_none_iff _ tags).1 hd
      rw [handleTags_of_skip ha, handleTags_of_skip ha]
      exact ⟨h, rfl, rfl⟩
    | some d =>
      rw [handleTags_of_senses (h.fault?_graph he) hd,
        handleTags_of_senses (h.fault?_table he) (hflag ▸ hd)]
      exact (matches_blockFirst hkeys haccess (mirrors_mark hkeys haccess h he d) he tags nodes).map _

/-- **Every call on a graph is matched by the same call on a table.** -/
theorem matches_perform (hkeys : KeysApart keys) (haccess : c.accessKey ∈ keys)
    (hround : c.roundaboutKey ∈ keys) (h : Mirrors keys edges g t) {call : Call GraphEdge}
    (he : call.edge ∈ edges) (hcall : call.KeysIn keys) :
    (c.perform g call).Matches (Mirrors keys edges) (c.perform t (call.map identifier)) := by
  cases call with
  | handle e way nodes => exact (matches_handle hkeys haccess hround h he way nodes).map _
  | block e node => exact (matches_block hkeys haccess h he node).map _
  | read slot =>
    refine ⟨h, rfl, ?_⟩
    show (FlagStore.read g slot).map Reply.flag =
      (FlagStore.read t (slot.map identifier)).map Reply.flag
    rw [h.read_graph he, h.read_table hcall he]
  | write slot b =>
    have hgraph : FlagStore.write g slot b = .ok (g.setFlag slot b) :=
      FlagStore.write_of_usable (h.fault?_graph he) b
    have htable : FlagStore.write t (slot.map identifier) b = .ok (t.set (slot.map identifier) b) :=
      FlagStore.write_of_usable (h.fault?_table he) b
    simp only [perform, Call.map, hgraph, htable]
    exact ⟨h.set hkeys slot hcall he b, rfl, rfl⟩

/-- After the same calls on both, the two still agree. -/
theorem mirrors_after (hkeys : KeysApart keys) (haccess : c.accessKey ∈ keys)
    (hround : c.roundaboutKey ∈ keys) {calls : List (Call GraphEdge)}
    (hcalls : ∀ call ∈ calls, call.edge ∈ edges ∧ call.KeysIn keys)
    (h : Mirrors keys edges g t) :
    Mirrors keys edges (c.after g calls) (c.after t (calls.map (Call.map identifier))) := by
  induction calls generalizing g t with
  | nil => exact h
  | cons call calls ih =>
    rw [List.forall_mem_cons] at hcalls
    obtain ⟨⟨he, hcall⟩, hcalls⟩ := hcalls
    exact ih hcalls (matches_perform hkeys haccess hround h he hcall).state

end Classifier

/-- A graph whose edges have no flags agrees with the empty table. -/
theorem mirrors_empty {keys : Set String} {g : Graph} (hnodes : g.Identified)
    (hfresh : ∀ e, g.hasEdge e = true → ∀ key ∈ keys, ∀ reverse,
      g.attribute? e (attributeName key reverse) = none) :
    Mirrors keys {e | g.hasEdge e = true} g FlagTable.empty where
  hasEdge _ he := he
  hashable e he := hashable_identifier (hnodes e he)
  flag_eq slot hkey he := by
    rw [flag, hfresh slot.edge he slot.key hkey]
    rfl

/-! ### The whole -/

/-- **A graph is a store of flags like the table in memory.**  The edges of the graph have no flags
    under keys of which none is another one with the ending of the sense against the geometry.  Then
    any calls on these edges, with these keys, go alike on the graph and on an empty table: every call
    answers or fails the same and reports the same, and before, between and after the calls every flag
    of these edges under these keys reads the same.  Two different slots of an edge share an attribute
    only where one key has that ending. -/
theorem graph_mirrors_table (c : Classifier) (keys : Set String) (hkeys : KeysApart keys)
    (haccess : c.accessKey ∈ keys) (hround : c.roundaboutKey ∈ keys) (g : Graph)
    (hnodes : g.Identified)
    (hfresh : ∀ e, g.hasEdge e = true → ∀ key ∈ keys, ∀ reverse,
      g.attribute? e (attributeName key reverse) = none)
    (calls : List (Call GraphEdge))
    (hcalls : ∀ call ∈ calls, g.hasEdge call.edge = true ∧ call.KeysIn keys) :
    (∀ before call rest, calls = before ++ call :: rest →
      let o := c.perform (c.after g before) call
      let o' := c.perform (c.after FlagTable.empty (before.map (Call.map identifier)))
        (call.map identifier)
      o.result = o'.result ∧ o.result.mapError Fault.kind = o'.result.mapError Fault.kind ∧
        o.events = o'.events) ∧
    (∀ before rest, calls = before ++ rest →
      ∀ slot : Slot GraphEdge, slot.key ∈ keys → g.hasEdge slot.edge = true →
        ∃ b, FlagStore.read (c.after g before) slot = .ok b ∧
          FlagStore.read (c.after FlagTable.empty (before.map (Call.map identifier)))
            (slot.map identifier) = .ok b) ∧
    ∀ (key key' : String) (reverse reverse' : Bool), (key, reverse) ≠ (key', reverse') →
      (attributeName key reverse = attributeName key' reverse' ↔
        (key = key' ++ "_reverse" ∧ reverse = false ∧ reverse' = true) ∨
        (key' = key ++ "_reverse" ∧ reverse = true ∧ reverse' = false)) := by
  have hmirrors : ∀ before rest, calls = before ++ rest →
      Mirrors keys {e | g.hasEdge e = true} (c.after g before)
        (c.after FlagTable.empty (before.map (Call.map identifier))) := by
    rintro before rest rfl
    exact Classifier.mirrors_after hkeys haccess hround
      (fun call hcall => hcalls call (List.mem_append_left _ hcall)) (mirrors_empty hnodes hfresh)
  refine ⟨?_, ?_, ?_⟩
  · rintro before call rest rfl
    obtain ⟨he, hcall⟩ := hcalls call (by simp)
    have hstep := Classifier.matches_perform hkeys haccess hround (hmirrors before _ rfl) he hcall
    exact ⟨hstep.result, congrArg _ hstep.result, hstep.events⟩
  · intro before rest hsplit slot hkey he
    have h := hmirrors before rest hsplit
    exact ⟨_, h.read_graph he, h.read_table hkey he⟩
  · intro key key' reverse reverse' hne
    have hslots : ¬ (key = key' ∧ reverse = reverse') := fun h => hne (Prod.ext h.1 h.2)
    rw [attributeName_eq_iff, or_iff_right hslots]

/-- A street on a roundabout and an edge whose node is a number, on a graph and on a table. -/
theorem graph_mirrors_table_on_roundabout :
    let c : Classifier := {}
    let keys : Set String := {"bike_access", "roundabout"}
    let e : GraphEdge := (.int 1, .int 2)
    let g := Graph.empty.addEdge e [("length", .int 30)]
    let street := Json.object [("highway", .text "tertiary"), ("barrier_edge", .text "yes")]
    let calls : List (Call GraphEdge) :=
      [.write ⟨"roundabout", e, false⟩ true, .handle e street (.int 5),
        .read ⟨"bike_access", e, true⟩]
    KeysApart keys ∧ g.Identified ∧
      (c.perform (c.after g (calls.take 1)) (.handle e street (.int 5))).result =
        (c.perform (c.after FlagTable.empty ((calls.take 1).map (Call.map identifier)))
          (.handle (identifier e) street (.int 5))).result ∧
      FlagStore.read (c.after g calls) ⟨"bike_access", e, false⟩ = .ok true ∧
      FlagStore.read (c.after FlagTable.empty (calls.map (Call.map identifier)))
        ⟨"bike_access", identifier e, false⟩ = .ok true := by
  intro c keys e g street calls
  have hkeys : KeysApart keys := by
    rintro key (rfl | rfl) key' (rfl | rfl) <;> decide
  have hnodes : g.Identified := identified_addEdge identified_empty ⟨rfl, rfl⟩ _
  have hfresh : ∀ e', g.hasEdge e' = true → ∀ key ∈ keys, ∀ reverse,
      g.attribute? e' (attributeName key reverse) = none := by
    intro e' _ key hkey reverse
    rw [attribute?, attributes?_addEdge]
    by_cases heq : e' = e
    · rw [if_pos heq]
      rcases hkey with rfl | rfl <;> cases reverse <;> decide
    · rw [if_neg heq]
      rfl
  have hcalls : ∀ call ∈ calls, g.hasEdge call.edge = true ∧ call.KeysIn keys := by
    simp only [calls, List.forall_mem_cons]
    exact ⟨⟨rfl, .inr rfl⟩, ⟨rfl, trivial⟩, ⟨rfl, .inl rfl⟩, List.forall_mem_nil _⟩
  obtain ⟨hanswers, hflags, -⟩ :=
    graph_mirrors_table c keys hkeys (.inl rfl) (.inr rfl) g hnodes hfresh calls hcalls
  obtain ⟨b, hgraph, htable⟩ := hflags calls [] (by simp) ⟨"bike_access", e, false⟩ (.inl rfl) rfl
  -- The call that fails has written the pair of the tags on both.
  have hopen : FlagStore.read (c.after g calls) ⟨"bike_access", e, false⟩ = .ok true := by
    decide +kernel
  obtain rfl := Except.ok.inj (hopen.symm.trans hgraph)
  exact ⟨hkeys, hnodes, (hanswers _ _ _ rfl).1, hgraph, htable⟩

end RoadAccess
