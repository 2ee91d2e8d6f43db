import RoadAccess.Proofs.Handling

namespace RoadAccess

/-!
# Calls on a store of flags

A store is shared by those who handle ways, those who close edges at barrier nodes, and those who
read and write single flags.  Their calls come in any order, and a call that fails does not stop
the ones after it.

* `Call`, `Reply` — what can be asked of a store, and what is answered;
* `Classifier.perform` — one call; `Classifier.after` — the store after several;
* `Classifier.Succeeds` — no call fails;
* `Classifier.effective` — the call is one that writes the access flags of its edge, and
  `Classifier.produced` is the pair that it writes there;
* `Performed`, `performed` — what one call can do to the store.
-/

/-- What can be asked of a store. -/
inductive Call (ε : Type) where
  /-- Handle the way of an edge. -/
  | handle (edge : ε) (way nodes : Json)
  /-- Close an edge if a node blocks. -/
  | block (edge : ε) (node : Json)
  | read (slot : Slot ε)
  | write (slot : Slot ε) (value : Bool)

/-- The edge of a call. -/
def Call.edge {ε : Type} : Call ε → ε
  | .handle edge _ _ => edge
  | .block edge _ => edge
  | .read slot => slot.edge
  | .write slot _ => slot.edge

/-- What a call answers. -/
inductive Reply where
  | access (access : Access)
  | flag (value : Bool)
  | done

namespace Classifier

/-- A call that does not write access flags one by one. -/
def Spares {ε : Type} (c : Classifier) : Call ε → Prop
  | .write slot _ => slot.key ≠ c.accessKey
  | _ => True

/-- A call that writes the access flags of its edge: a way that enters the network is handled, or
    a node is a barrier. -/
def effective {ε : Type} (c : Classifier) : Call ε → Bool
  | .handle _ way _ => (Tags.ofJson? way).any fun t => c.access t ≠ .skip
  | .block _ node => (Tags.ofJson? node).any c.profile.isBarrier
  | _ => false

/-- The pair that an effective call writes, by what it is given and by the roundabout flag of its
    edge at that moment. -/
def produced {ε : Type} (c : Classifier) (roundabout : Bool) : Call ε → Option Directions
  | .handle _ way nodes => (Tags.ofJson? way).bind fun t =>
    match c.verdict roundabout t nodes with
    | .ok pair => pair
    | .error _ => none
  | .block _ node => (Tags.ofJson? node).bind fun t =>
    if c.profile.isBarrier t then some .closed else none
  | _ => none

variable {σ ε : Type} [FlagStore σ ε]

/-- One call. -/
def perform (c : Classifier) (s : σ) : Call ε → Outcome Fault Event σ Reply
  | .handle edge way nodes => (c.handle s edge way nodes).map .access
  | .block edge node => (c.block s edge node).map fun () => .done
  | .read slot => ⟨s, [], (FlagStore.read s slot).map .flag⟩
  | .write slot value =>
    match FlagStore.write s slot value with
    | .error f => .fail s f
    | .ok s' => .pure s' .done

/-- The store after several calls. -/
def after (c : Classifier) (s : σ) (calls : List (Call ε)) : σ :=
  calls.foldl (fun s call => (c.perform s call).state) s

/-- No call fails. -/
def Succeeds (c : Classifier) (s : σ) : List (Call ε) → Prop
  | [] => True
  | call :: calls =>
    (∃ reply, (c.perform s call).result = .ok reply) ∧ c.Succeeds (c.perform s call).state calls

@[simp] theorem after_nil (c : Classifier) (s : σ) : c.after s [] = s := rfl

@[simp] theorem after_cons (c : Classifier) (s : σ) (call : Call ε) (calls : List (Call ε)) :
    c.after s (call :: calls) = c.after (c.perform s call).state calls := rfl

theorem after_append (c : Classifier) (s : σ) (calls later : List (Call ε)) :
    c.after s (calls ++ later) = c.after (c.after s calls) later :=
  List.foldl_append

/-- If no call of two runs fails, none of the first does, and none of the second after it. -/
theorem succeeds_append (c : Classifier) (s : σ) (calls later : List (Call ε)) :
    c.Succeeds s (calls ++ later) ↔ c.Succeeds s calls ∧ c.Succeeds (c.after s calls) later := by
  induction calls generalizing s with
  | nil => simp [Succeeds]
  | cons call calls ih =>
    simp only [List.cons_append, Succeeds, after_cons, ih, and_assoc]

/-! ### One call -/

/-- What a call can do: nothing, write the one flag that it names, or write the pair of its
    edge. -/
inductive Performed (c : Classifier) (s : σ) (call : Call ε)
    (o : Outcome Fault Event σ Reply) : Prop where
  /-- Only an effective call that fails, or one that is not effective, leaves the store as it
      is. -/
  | kept (hfails : c.effective call = true → ∃ f, o.result = .error f) (hstate : o.state = s)
  | wrote (slot : Slot ε) (b : Bool) (hcall : call = .write slot b)
      (hstate : o.state = FlagStore.set s slot b)
  /-- A call that succeeds writes what it produces. -/
  | marked (d : Directions) (heffective : c.effective call = true)
      (hproduced : ∀ reply, o.result = .ok reply →
        c.produced (FlagStore.get s (c.roundaboutSlot call.edge)) call = some d)
      (hstate : o.state = c.mark s call.edge d)

theorem performed_block (c : Classifier) (s : σ) (e : ε) (node : Json) :
    c.Performed s (.block e node) (c.perform s (.block e node)) := by
  by_cases hb : c.blocks node = .ok true
  · have heffective := (c.blocks_eq_true_iff node).1 hb
    cases hs : FlagStore.fault? s e with
    | some f =>
      obtain ⟨hstate, hresult⟩ := block_of_fault hs hb
      exact .kept (fun _ => ⟨f, by simp [perform, hresult, Except.map]⟩) hstate
    | none =>
      refine .marked .closed heffective ?_ (state_block_of_blocks hs hb)
      intro _ _
      obtain ⟨t, ht, hbarrier⟩ := (Option.any_eq_true ..).1 heffective
      simp [produced, ht, hbarrier]
  · have hnot : c.effective (.block e node) ≠ true := fun h => hb ((c.blocks_eq_true_iff node).2 h)
    exact .kept (fun h => absurd h hnot) (state_block_of_not_blocks s e hb)

variable [DecidableEq ε] [LawfulFlagStore σ ε]

theorem performed_handle (c : Classifier) (s : σ) (e : ε) (way nodes : Json) :
    c.Performed s (.handle e way nodes) (c.perform s (.handle e way nodes)) := by
  cases c.handled s e way nodes with
  | unreadable hw hstate _ => exact .kept (by simp [effective, hw]) hstate
  | skipped t hw ha hstate _ => exact .kept (by simp [effective, hw, ha]) hstate
  | unusable t f _ _ _ hstate hresult =>
    exact .kept (fun _ => ⟨f, by simp [perform, hresult, Except.map]⟩) hstate
  | stuck t d f hw _ hd _ hstate hresult =>
    refine .marked d (by simp [effective, hw, access_ne_skip hd]) ?_ hstate
    intro reply hreply
    simp [perform, hresult, Except.map] at hreply
  | settled t d b hw _ hd hc hstate _ =>
    refine .marked _ (by simp [effective, hw, access_ne_skip hd]) ?_ hstate
    intro _ _
    simp only [produced, hw, Option.bind_some, Call.edge]
    rw [verdict_of_senses hd, hc]
    rfl

/-- There is nothing else that a call can do. -/
theorem performed (c : Classifier) (s : σ) (call : Call ε) :
    c.Performed s call (c.perform s call) := by
  cases call with
  | handle e way nodes => exact performed_handle c s e way nodes
  | block e node => exact performed_block c s e node
  | read slot => exact .kept nofun rfl
  | write slot b =>
    cases hs : FlagStore.fault? s slot.edge with
    | some f => exact .kept nofun (by simp [perform, FlagStore.write, hs, Outcome.fail])
    | none => exact .wrote slot b rfl (by simp [perform, FlagStore.write, hs, Outcome.pure])

end Classifier

end RoadAccess
