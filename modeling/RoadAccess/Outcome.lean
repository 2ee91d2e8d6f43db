namespace RoadAccess

/-!
# Outcomes

What a step that works on a state leaves behind: the state, the events it reported, and its result
or the cause of its failure.  A step that fails keeps what it did before it failed.

* `Outcome.andThen` — one step after the other, up to the first failure;
* `Outcome.map`, `Outcome.mapFault` — another result, another cause.
-/

/-- What a step leaves behind. -/
structure Outcome (φ ω σ α : Type) where
  /-- The state after the step. -/
  state : σ
  /-- The events that the step reported, in order. -/
  events : List ω
  /-- The result, or the cause of the failure. -/
  result : Except φ α

namespace Outcome

variable {φ ψ ω σ α β : Type}

/-- A step that does nothing but give a result. -/
def pure (s : σ) (a : α) : Outcome φ ω σ α := ⟨s, [], .ok a⟩

/-- A step that fails at once. -/
def fail (s : σ) (e : φ) : Outcome φ ω σ α := ⟨s, [], .error e⟩

/-- A step followed by another one, unless it fails. -/
def andThen (o : Outcome φ ω σ α) (next : σ → α → Outcome φ ω σ β) : Outcome φ ω σ β :=
  match o.result with
  | .error e => ⟨o.state, o.events, .error e⟩
  | .ok a =>
    let o' := next o.state a
    ⟨o'.state, o.events ++ o'.events, o'.result⟩

/-- A step with another result. -/
def map (f : α → β) (o : Outcome φ ω σ α) : Outcome φ ω σ β :=
  ⟨o.state, o.events, o.result.map f⟩

/-- A step with another cause of failure. -/
def mapFault (f : φ → ψ) (o : Outcome φ ω σ α) : Outcome ψ ω σ α :=
  ⟨o.state, o.events, o.result.mapError f⟩

@[simp] theorem state_map (f : α → β) (o : Outcome φ ω σ α) : (o.map f).state = o.state := rfl

@[simp] theorem result_map (f : α → β) (o : Outcome φ ω σ α) :
    (o.map f).result = o.result.map f := rfl

@[simp] theorem state_mapFault (f : φ → ψ) (o : Outcome φ ω σ α) :
    (o.mapFault f).state = o.state := rfl

@[simp] theorem result_mapFault (f : φ → ψ) (o : Outcome φ ω σ α) :
    (o.mapFault f).result = o.result.mapError f := rfl

/-- A result that was made from another one is there only if the other one is. -/
theorem ok_of_map {r : Except φ α} {f : α → β} {b : β} (h : r.map f = .ok b) :
    ∃ a, r = .ok a ∧ f a = b := by
  cases r with
  | error e => cases h
  | ok a => exact ⟨a, rfl, Except.ok.inj h⟩

/-- It fails only as the other one does. -/
theorem error_of_map {r : Except φ α} {f : α → β} {e : φ} (h : r.map f = .error e) :
    r = .error e := by
  cases r with
  | error e' => exact congrArg _ (Except.error.inj h)
  | ok a => cases h

/-- It is there exactly if the other one is. -/
theorem exists_ok_map_iff {r : Except φ α} {f : α → β} :
    (∃ b, r.map f = .ok b) ↔ ∃ a, r = .ok a := by
  cases r <;> simp [Except.map]

theorem error_map_iff {r : Except φ α} {f : α → β} {e : φ} :
    r.map f = .error e ↔ r = .error e := by
  cases r <;> simp [Except.map]

/-- Another cause of failure changes no result. -/
theorem ok_of_mapError {r : Except φ α} {f : φ → ψ} {a : α} (h : r.mapError f = .ok a) :
    r = .ok a := by
  cases r with
  | error e => cases h
  | ok a' => exact congrArg _ (Except.ok.inj h)

/-- It fails as the other one does, but for the cause. -/
theorem error_of_mapError {r : Except φ α} {f : φ → ψ} {e : ψ} (h : r.mapError f = .error e) :
    ∃ e', r = .error e' ∧ f e' = e := by
  cases r with
  | error e' => exact ⟨e', rfl, Except.error.inj h⟩
  | ok a => cases h

/-- After a step that fails nothing is done. -/
theorem andThen_of_error {o : Outcome φ ω σ α} {e : φ} (h : o.result = .error e)
    (next : σ → α → Outcome φ ω σ β) :
    o.andThen next = ⟨o.state, o.events, .error e⟩ := by
  rw [andThen, h]

/-- After a step that succeeds the next one goes on from its state. -/
theorem andThen_of_ok {o : Outcome φ ω σ α} {a : α} (h : o.result = .ok a)
    (next : σ → α → Outcome φ ω σ β) :
    o.andThen next =
      ⟨(next o.state a).state, o.events ++ (next o.state a).events, (next o.state a).result⟩ := by
  rw [andThen, h]

/-- Two steps succeed only if each of them does. -/
theorem ok_of_andThen {o : Outcome φ ω σ α} {next : σ → α → Outcome φ ω σ β} {b : β}
    (h : (o.andThen next).result = .ok b) :
    ∃ a, o.result = .ok a ∧ (next o.state a).result = .ok b ∧
      (o.andThen next).state = (next o.state a).state := by
  cases hr : o.result with
  | error e =>
    rw [andThen_of_error hr] at h
    cases h
  | ok a =>
    rw [andThen_of_ok hr] at h ⊢
    exact ⟨a, rfl, h, rfl⟩

end Outcome

end RoadAccess
