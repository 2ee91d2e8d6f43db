namespace RoadAccess.Keyed

/-!
# Ordered association lists

A list of pairs read as a finite map that remembers the order in which its keys first came.

* `put` — binds a key: in its old place if it has one, at the end otherwise;
* `putAll` — binds several keys, one after the other;
* `lookup_put` — the binding is what look-up then finds, and no other key is touched;
  `lookup_putAll` — of several bindings of a key the last one is found;
* `keys_put` — the keys keep their order;
* `put_put_self`, `put_put_put` — a binding that is overwritten leaves no trace;
* `put_of_lookup` — a binding that is there already changes nothing.
-/

variable {α β : Type} [DecidableEq α]

/-- Binds the key, in its old place if it has one and at the end otherwise. -/
def put : List (α × β) → α → β → List (α × β)
  | [], k, v => [(k, v)]
  | (k', v') :: rest, k, v => if k' = k then (k, v) :: rest else (k', v') :: put rest k v

/-- Binds the keys of the second list, one after the other. -/
def putAll (entries news : List (α × β)) : List (α × β) :=
  news.foldl (fun entries (k, v) => put entries k v) entries

/-- The keys, in order. -/
def keys (entries : List (α × β)) : List α := entries.map Prod.fst

/-! ### Look-up -/

/-- Look-up goes past a pair with another key. -/
theorem lookup_cons_ite (k k' : α) (v : β) (rest : List (α × β)) :
    List.lookup k' ((k, v) :: rest) = if k' = k then some v else rest.lookup k' := by
  by_cases h : k' = k
  · simp [h]
  · rw [List.lookup_cons, beq_false_of_ne h, if_neg h]

/-- A binding is found, and only at its key. -/
theorem lookup_put (entries : List (α × β)) (k k' : α) (v : β) :
    (put entries k v).lookup k' = if k' = k then some v else entries.lookup k' := by
  induction entries with
  | nil => rw [put, lookup_cons_ite]
  | cons e rest ih =>
    obtain ⟨j, w⟩ := e
    by_cases hj : j = k
    · subst hj
      by_cases h : k' = j <;> simp [put, lookup_cons_ite, h]
    · by_cases h : k' = j
      · subst h
        simp [put, hj]
      · simp [put, hj, lookup_cons_ite, h, ih]

@[simp] theorem lookup_put_self (entries : List (α × β)) (k : α) (v : β) :
    (put entries k v).lookup k = some v := by rw [lookup_put, if_pos rfl]

/-- Of several bindings of a key the last one is found. -/
theorem lookup_putAll (entries news : List (α × β)) (k : α) :
    (putAll entries news).lookup k = (news.reverse.lookup k).or (entries.lookup k) := by
  induction news generalizing entries with
  | nil => rfl
  | cons new news ih =>
    obtain ⟨k', v⟩ := new
    show (putAll (put entries k' v) news).lookup k = _
    rw [ih, lookup_put, List.reverse_cons, List.lookup_append, lookup_cons_ite, Option.or_assoc]
    split <;> rfl

/-- A key is found exactly when it is among the keys. -/
theorem lookup_isSome_iff (entries : List (α × β)) (k : α) :
    (entries.lookup k).isSome ↔ k ∈ keys entries := by
  induction entries with
  | nil => simp [keys]
  | cons e rest ih =>
    obtain ⟨j, w⟩ := e
    by_cases h : k = j
    · simp [keys, h]
    · simp only [keys, List.map_cons, List.mem_cons, h, false_or] at ih ⊢
      rw [lookup_cons_ite, if_neg h]
      exact ih

/-! ### Overwriting -/

/-- Of two bindings of one key the later one counts. -/
theorem put_put_self (entries : List (α × β)) (k : α) (v w : β) :
    put (put entries k v) k w = put entries k w := by
  induction entries with
  | nil => simp [put]
  | cons e rest ih =>
    obtain ⟨j, u⟩ := e
    by_cases hj : j = k
    · simp [put, hj]
    · simp [put, hj, ih]

/-- A key that is bound again stays before a key that came after it. -/
theorem put_put_put (entries : List (α × β)) {k k' : α} (v w v' : β) (h : k' ≠ k) :
    put (put (put entries k v) k' w) k v' = put (put entries k v') k' w := by
  induction entries with
  | nil => simp [put, Ne.symm h]
  | cons e rest ih =>
    obtain ⟨j, u⟩ := e
    by_cases hj : j = k
    · subst hj
      simp [put, Ne.symm h]
    · by_cases hj' : j = k'
      · subst hj'
        simp [put, h, put_put_self]
      · simp [put, hj, hj', ih]

/-- A binding that a function of the values cannot tell from the old one changes nothing for it. -/
theorem map_put_of_lookup {γ : Type} (f : β → γ) {entries : List (α × β)} {k : α} {v w : β}
    (h : entries.lookup k = some w) (hf : f v = f w) :
    (put entries k v).map (Prod.map id f) = entries.map (Prod.map id f) := by
  induction entries with
  | nil => cases h
  | cons e rest ih =>
    obtain ⟨j, u⟩ := e
    rw [lookup_cons_ite] at h
    by_cases hj : j = k
    · subst hj
      obtain rfl := Option.some.inj ((if_pos rfl).symm.trans h)
      simp [put, hf]
    · rw [if_neg (Ne.symm hj)] at h
      simp [put, hj, ih h]

/-- A binding that is there already changes nothing. -/
theorem put_of_lookup {entries : List (α × β)} {k : α} {v : β} (h : entries.lookup k = some v) :
    put entries k v = entries := by
  simpa using map_put_of_lookup id h rfl

/-! ### Keys -/

/-- Binding a key adds it at the end, if it is new. -/
theorem keys_put (entries : List (α × β)) (k : α) (v : β) :
    keys (put entries k v) = if k ∈ keys entries then keys entries else keys entries ++ [k] := by
  induction entries with
  | nil => simp [put, keys]
  | cons e rest ih =>
    obtain ⟨j, w⟩ := e
    by_cases hj : j = k
    · simp [put, keys, hj]
    · have hk : k ≠ j := fun h => hj h.symm
      simp only [keys] at ih
      simp only [put, hj, if_false, keys, List.map_cons, List.mem_cons, hk, false_or, ih]
      by_cases hm : k ∈ rest.map Prod.fst <;> simp [hm]

/-- Binding a key keeps the keys free of repetitions. -/
theorem nodup_keys_put {entries : List (α × β)} (h : (keys entries).Nodup) (k : α) (v : β) :
    (keys (put entries k v)).Nodup := by
  rw [keys_put]
  split
  · exact h
  · next hk =>
    rw [List.nodup_append]
    refine ⟨h, by simp, ?_⟩
    intro a ha b hb
    rw [List.mem_singleton] at hb
    exact fun e => hk (hb ▸ e ▸ ha)

end RoadAccess.Keyed
