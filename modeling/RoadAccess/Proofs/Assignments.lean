import Mathlib.Data.List.Induction
import Mathlib.Data.List.Nodup
import RoadAccess.Keyed

namespace RoadAccess

/-!
# Assignments one after the other

Tags and options are written as items that assign values to keys.  The items are read in order, up to
the first that cannot be read, and of the values that a key is assigned the last one counts.

* `exists_mapM_eq_ok_iff`, `mapM_eq_error_iff` — items can be read if each of them can, and fail as
  the first that cannot; `forall₂_of_mapM` — what was read is in their order;
* `LastAssigned` — the value that a key is assigned last; `exists_lastAssigned_iff` — there is one if
  the key is assigned any; `lookup_reverse_of_mapM` — it is found in what was read;
* `Keyed.keys_putAll` — keys come in the order of their first assignment;
* `Keyed.putAll_of_nodup` — assignments to different keys stand as they were given.
-/

/-! ### Items that are read in order -/

section

variable {ι α ε : Type} {read : ι → Except ε α} {items : List ι}

theorem mapM_cons_eq_ok_iff {item : ι} {as : List α} :
    (item :: items).mapM read = .ok as ↔
      ∃ a rest, read item = .ok a ∧ items.mapM read = .ok rest ∧ as = a :: rest := by
  rw [List.mapM_cons]
  cases read item with
  | error e => simp [bind, Except.bind]
  | ok a => cases items.mapM read <;> simp [bind, Except.bind, pure, Except.pure, eq_comm]

theorem mapM_cons_eq_error_iff {item : ι} {e : ε} :
    (item :: items).mapM read = .error e ↔
      read item = .error e ∨ (∃ a, read item = .ok a) ∧ items.mapM read = .error e := by
  rw [List.mapM_cons]
  cases read item with
  | error e => simp [bind, Except.bind]
  | ok a => cases items.mapM read <;> simp [bind, Except.bind, pure, Except.pure]

/-- What was read comes from the items in their order. -/
theorem forall₂_of_mapM {as : List α} (h : items.mapM read = .ok as) :
    List.Forall₂ (fun item a => read item = .ok a) items as := by
  induction items generalizing as with
  | nil =>
    obtain rfl := Except.ok.inj h
    exact .nil
  | cons item items ih =>
    obtain ⟨a, rest, ha, hrest, rfl⟩ := mapM_cons_eq_ok_iff.1 h
    exact .cons ha (ih hrest)

/-- Items can be read exactly if each of them can. -/
theorem exists_mapM_eq_ok_iff :
    (∃ as, items.mapM read = .ok as) ↔ ∀ item ∈ items, ∃ a, read item = .ok a := by
  induction items with
  | nil => exact ⟨fun _ => nofun, fun _ => ⟨[], rfl⟩⟩
  | cons item items ih =>
    rw [List.forall_mem_cons, ← ih]
    simp only [mapM_cons_eq_ok_iff]
    constructor
    · rintro ⟨_, a, rest, ha, hrest, rfl⟩
      exact ⟨⟨a, ha⟩, rest, hrest⟩
    · rintro ⟨⟨a, ha⟩, rest, hrest⟩
      exact ⟨_, a, rest, ha, hrest, rfl⟩

/-- They fail as the first of them does that cannot be read. -/
theorem mapM_eq_error_iff {e : ε} :
    items.mapM read = .error e ↔ ∃ before item after, items = before ++ item :: after ∧
      (∀ earlier ∈ before, ∃ a, read earlier = .ok a) ∧ read item = .error e := by
  induction items with
  | nil => simp [pure, Except.pure]
  | cons first items ih =>
    rw [mapM_cons_eq_error_iff, ih]
    constructor
    · rintro (hfirst | ⟨hfirst, before, item, after, rfl, hbefore, hitem⟩)
      · exact ⟨[], first, items, rfl, nofun, hfirst⟩
      · refine ⟨first :: before, item, after, rfl, ?_, hitem⟩
        rw [List.forall_mem_cons]
        exact ⟨hfirst, hbefore⟩
    · -- The item that fails is the first one, or it is one of the others.
      rintro ⟨_ | ⟨_, before⟩, item, after, hitems, hbefore, hitem⟩
      · obtain ⟨rfl, rfl⟩ := List.cons.inj hitems
        exact .inl hitem
      · obtain ⟨rfl, rfl⟩ := List.cons.inj hitems
        rw [List.forall_mem_cons] at hbefore
        exact .inr ⟨hbefore.1, before, item, after, rfl, hbefore.2, hitem⟩

end

/-! ### The last assignment -/

section

variable {ι κ ν ε : Type} {assigns : ι → κ → ν → Prop} {items : List ι} {key : κ}

/-- Of the items that assign a value to the key the last one assigns this value. -/
def LastAssigned (assigns : ι → κ → ν → Prop) (items : List ι) (key : κ) (value : ν) : Prop :=
  ∃ before item after, items = before ++ item :: after ∧ assigns item key value ∧
    ∀ later ∈ after, ∀ other, ¬ assigns later key other

/-- Later items count before the first one. -/
theorem lastAssigned_cons {item : ι} {value : ν} :
    LastAssigned assigns (item :: items) key value ↔
      LastAssigned assigns items key value ∨
        (∀ later ∈ items, ∀ other, ¬ assigns later key other) ∧ assigns item key value := by
  constructor
  · rintro ⟨_ | ⟨_, before⟩, item', after, hitems, hitem, hafter⟩
    · obtain ⟨rfl, rfl⟩ := List.cons.inj hitems
      exact .inr ⟨hafter, hitem⟩
    · obtain ⟨rfl, rfl⟩ := List.cons.inj hitems
      exact .inl ⟨before, item', after, rfl, hitem, hafter⟩
  · rintro (⟨before, item', after, rfl, hitem, hafter⟩ | ⟨hafter, hitem⟩)
    · exact ⟨item :: before, item', after, rfl, hitem, hafter⟩
    · exact ⟨[], item, items, rfl, hitem, hafter⟩

/-- A key is assigned a value last if it is assigned any. -/
theorem exists_lastAssigned_iff :
    (∃ value, LastAssigned assigns items key value) ↔
      ∃ item ∈ items, ∃ value, assigns item key value := by
  induction items with
  | nil => simp [LastAssigned]
  | cons item items ih =>
    simp only [lastAssigned_cons, exists_or, ih, List.mem_cons, exists_eq_or_imp]
    -- Either a later item assigns the key a value, or the first one can be the last.
    by_cases hlater : ∃ later ∈ items, ∃ value, assigns later key value
    · simp only [hlater, true_or, or_true]
    · have hnone : ∀ later ∈ items, ∀ other, ¬ assigns later key other :=
        fun later hmem other h => hlater ⟨later, hmem, other, h⟩
      simp only [hlater, false_or, or_false, and_iff_right hnone]

theorem forall_not_lastAssigned_iff :
    (∀ value, ¬ LastAssigned assigns items key value) ↔
      ∀ item ∈ items, ∀ value, ¬ assigns item key value := by
  rw [← not_exists, exists_lastAssigned_iff]
  simp only [not_exists, not_and]

/-- Where exactly the last assignment is found, nothing is found without any. -/
theorem eq_none_iff_of_lastAssigned {found : Option ν}
    (h : ∀ value, found = some value ↔ LastAssigned assigns items key value) :
    found = none ↔ ∀ item ∈ items, ∀ value, ¬ assigns item key value := by
  rw [Option.eq_none_iff_forall_ne_some, ← forall_not_lastAssigned_iff]
  exact forall_congr' fun value => not_congr (h value)

/-- What a key is assigned last is found in what was read. -/
theorem lookup_reverse_of_mapM [DecidableEq κ] {read : ι → Except ε (κ × ν)}
    (hread : ∀ item k v, read item = .ok (k, v) ↔ assigns item k v) {entries : List (κ × ν)}
    (h : items.mapM read = .ok entries) (key : κ) (value : ν) :
    entries.reverse.lookup key = some value ↔ LastAssigned assigns items key value := by
  induction items generalizing entries value with
  | nil =>
    obtain rfl := Except.ok.inj h
    simp [LastAssigned]
  | cons item items ih =>
    obtain ⟨⟨k, v⟩, rest, hitem, hrest, rfl⟩ := mapM_cons_eq_ok_iff.1 h
    have hfirst : [(k, v)].lookup key = some value ↔ assigns item key value := by
      rw [← hread, hitem, Except.ok.injEq, Prod.mk.injEq, Keyed.lookup_cons_ite]
      by_cases hk : key = k
      · simp [hk]
      · simp [hk, Ne.symm hk]
    -- From the end, the first item is looked at only where no later one assigns the key a value.
    rw [List.reverse_cons, List.lookup_append, lastAssigned_cons, Option.or_eq_some_iff, ih hrest,
      eq_none_iff_of_lastAssigned (ih hrest), hfirst]

end

/-! ### Keyed lists -/

namespace Keyed

variable {α β : Type} [DecidableEq α]

theorem lookup_reverse_of_notMem {entries : List (α × β)} {k : α} (h : k ∉ keys entries) :
    entries.reverse.lookup k = none := by
  rw [← Option.not_isSome_iff_eq_none, lookup_isSome_iff, keys, List.map_reverse, List.mem_reverse]
  exact h

/-- What a key is bound to last is found from the end. -/
theorem lookup_reverse_of_append {before after : List (α × β)} {k : α} {v : β}
    (h : k ∉ keys after) : (before ++ (k, v) :: after).reverse.lookup k = some v := by
  rw [List.reverse_append, List.reverse_cons, List.append_assoc, List.lookup_append,
    lookup_reverse_of_notMem h, Option.none_or, List.singleton_append, lookup_cons_ite, if_pos rfl]

theorem put_of_notMem {entries : List (α × β)} {k : α} (h : k ∉ keys entries) (v : β) :
    put entries k v = entries ++ [(k, v)] := by
  induction entries with
  | nil => rfl
  | cons e rest ih =>
    obtain ⟨j, w⟩ := e
    have hne : k ∉ j :: keys rest := h
    rw [List.mem_cons, not_or] at hne
    rw [put, if_neg (Ne.symm hne.1), ih hne.2, List.cons_append]

theorem putAll_concat (entries news : List (α × β)) (k : α) (v : β) :
    putAll entries (news ++ [(k, v)]) = put (putAll entries news) k v := by
  rw [putAll, List.foldl_append]
  rfl

/-- Keys come in the order in which they are first bound. -/
theorem keys_putAll (news : List (α × β)) : keys (putAll [] news) = (keys news).eraseDups := by
  -- A binding depends on those before it, so the induction adds them at the end.
  induction news using List.reverseRecOn with
  | nil => rfl
  | append_singleton news new ih =>
    obtain ⟨k, v⟩ := new
    have hkeys : keys (news ++ [(k, v)]) = keys news ++ [k] := List.map_append
    rw [putAll_concat, keys_put, ih, hkeys, List.eraseDups_append]
    by_cases hk : k ∈ keys news
    · simp [hk, List.removeAll]
    · simp [hk, List.removeAll, List.eraseDups_cons]

/-- No key is bound twice. -/
theorem nodup_keys_putAll {entries : List (α × β)} (h : (keys entries).Nodup)
    (news : List (α × β)) : (keys (putAll entries news)).Nodup := by
  induction news generalizing entries with
  | nil => exact h
  | cons new news ih => exact ih (nodup_keys_put h new.1 new.2)

/-- Bindings of different keys stand as they were given. -/
theorem putAll_of_nodup {news : List (α × β)} (h : (keys news).Nodup) : putAll [] news = news := by
  induction news using List.reverseRecOn with
  | nil => rfl
  | append_singleton news new ih =>
    obtain ⟨k, v⟩ := new
    have hkeys : keys (news ++ [(k, v)]) = keys news ++ [k] := List.map_append
    rw [hkeys, List.nodup_append_comm, List.singleton_append, List.nodup_cons] at h
    rw [putAll_concat, ih h.2, put_of_notMem h.1]

end Keyed

end RoadAccess
