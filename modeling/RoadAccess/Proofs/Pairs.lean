import RoadAccess.Outcome
import RoadAccess.Proofs.Assignments
import RoadAccess.Proofs.Graphs
import RoadAccess.Proofs.Stripping

namespace RoadAccess

/-!
# Tags read from pairs

Texts are read as tags if each of them is a pair: then a key has the value that the last of its pairs
gives it, and the keys come in the order of their first pairs.  Tags that can be written as pairs are
read back from them, and tags that were read can be written.

* `Tags.IsPair` — a text that is a pair; `Tags.Gives` — the key and the value of a pair;
* `Tags.readPair_eq_ok_iff`, `Tags.readPair_eq_error_iff` — a pair is read as its key and value, and
  any other text is refused;
* `Tags.writable_of_gives` — what a pair gives can be written;
* `Tags.get?_of_readPairs`, `Tags.keys_of_readPairs` — what several pairs give;
* `Tags.readPairs_writePairs` — tags that can be written are read back in their order;
* `pairs_read_and_written` — the whole.
-/

namespace Tags

variable {text key value : String} {texts : List String} {t : Tags}

/-! ### One pair -/

/-- The text is a pair: it has an equals sign, and not only blanks before the first one. -/
def IsPair (text : String) : Prop :=
  ∃ left right, text.toList = left ++ '=' :: right ∧ '=' ∉ left ∧ ∃ c ∈ left, Text.isBlank c = false

/-- The text is a pair that gives the key this value. -/
structure Gives (text key value : String) : Prop where
  equates : Text.Equates text.toList key value
  key_ne : key ≠ ""

/-- A key is empty exactly if there are only blanks where it stands. -/
theorem eq_empty_iff_of_stripChars {left : List Char} (h : Text.stripChars left = key.toList) :
    key = "" ↔ ∀ c ∈ left, Text.isBlank c = true := by
  rw [← Text.stripChars_eq_nil_iff, h, String.toList_eq_nil_iff]

/-- A pair gives some key a value, and no other text does. -/
theorem isPair_iff : IsPair text ↔ ∃ key value, Gives text key value := by
  constructor
  · rintro ⟨left, right, htext, hleft, c, hc, hblank⟩
    have hequates := Text.equates_of_cut (Text.cut_eq_some_iff.2 ⟨htext, hleft⟩)
    refine ⟨_, _, hequates, fun hempty => ?_⟩
    rw [eq_empty_iff_of_stripChars String.toList_ofList.symm] at hempty
    rw [hempty c hc] at hblank
    cases hblank
  · rintro ⟨key, value, ⟨left, right, htext, hleft, hkey, -⟩, hne⟩
    refine ⟨left, right, htext, hleft, ?_⟩
    by_contra hnone
    apply hne
    rw [eq_empty_iff_of_stripChars hkey]
    intro c hc
    by_contra hblank
    exact hnone ⟨c, hc, Bool.not_eq_true _ ▸ hblank⟩

theorem readPair_of_gives (h : Gives text key value) : readPair text = .ok (key, value) := by
  obtain ⟨⟨left, right, htext, hleft, hkey, hvalue⟩, hne⟩ := h
  have hcut : Text.cut '=' text.toList = some (left, right) := Text.cut_eq_some_iff.2 ⟨htext, hleft⟩
  have hempty : key.toList.isEmpty = false := by
    rw [List.isEmpty_eq_false_iff]
    exact fun hnil => hne (String.toList_eq_nil_iff.1 hnil)
  rw [readPair, hcut]
  simp only [hkey, hvalue, hempty, String.ofList_toList]
  rfl

theorem readPair_of_not_isPair (h : ¬ IsPair text) : readPair text = .error ⟨text⟩ := by
  rw [readPair]
  cases hcut : Text.cut '=' text.toList with
  | none => rfl
  | some parts =>
    obtain ⟨left, right⟩ := parts
    obtain ⟨htext, hleft⟩ := Text.cut_eq_some_iff.1 hcut
    -- There is an equals sign, so it can only be the key that is missing.
    have hblank : ∀ c ∈ left, Text.isBlank c = true := by
      intro c hc
      by_contra hnot
      exact h ⟨left, right, htext, hleft, c, hc, Bool.not_eq_true _ ▸ hnot⟩
    simp only [(Text.stripChars_eq_nil_iff left).2 hblank]
    rfl

/-- Reading a pair finds its key and its value. -/
theorem readPair_eq_ok_iff : readPair text = .ok (key, value) ↔ Gives text key value := by
  refine ⟨fun h => ?_, readPair_of_gives⟩
  by_cases hpair : IsPair text
  · obtain ⟨key', value', hgives⟩ := isPair_iff.1 hpair
    rw [readPair_of_gives hgives] at h
    obtain ⟨rfl, rfl⟩ := Prod.mk.inj (Except.ok.inj h)
    exact hgives
  · rw [readPair_of_not_isPair hpair] at h
    cases h

/-- Exactly the pairs can be read. -/
theorem exists_readPair_iff : (∃ pair, readPair text = .ok pair) ↔ IsPair text := by
  simp only [Prod.exists, readPair_eq_ok_iff, isPair_iff]

instance (text : String) : Decidable (IsPair text) :=
  decidable_of_iff ((readPair text).isOk = true) <| by
    rw [← exists_readPair_iff]
    cases readPair text <;> simp [Except.isOk, Except.toBool]

/-- All other texts are refused. -/
theorem readPair_eq_error_iff {e : MalformedPair} :
    readPair text = .error e ↔ ¬ IsPair text ∧ e = ⟨text⟩ := by
  constructor
  · intro h
    have hpair : ¬ IsPair text := by
      rw [← exists_readPair_iff, h]
      exact nofun
    rw [readPair_of_not_isPair hpair] at h
    exact ⟨hpair, (Except.error.inj h).symm⟩
  · rintro ⟨hpair, rfl⟩
    exact readPair_of_not_isPair hpair

/-- What a pair gives can be written as a pair. -/
theorem writable_of_gives (h : Gives text key value) : Writable key value := by
  obtain ⟨⟨left, right, -, hleft, hkey, hvalue⟩, hne⟩ := h
  refine ⟨hne, ?_, ?_, ?_⟩
  · rw [← hkey, Text.mem_stripChars_iff (by decide)]
    exact hleft
  · rw [Text.strip_eq_self_iff, ← hkey]
    exact Text.trimmed_stripChars left
  · rw [Text.strip_eq_self_iff, ← hvalue]
    exact Text.trimmed_stripChars right

/-! ### Several pairs -/

/-- Texts can be read exactly if all of them are pairs. -/
theorem exists_readPairs_iff :
    (∃ t, readPairs texts = .ok t) ↔ ∀ text ∈ texts, IsPair text := by
  rw [readPairs, Outcome.exists_ok_map_iff, exists_mapM_eq_ok_iff]
  simp only [exists_readPair_iff]

/-- The first text that is no pair is refused. -/
theorem readPairs_eq_error_iff {e : MalformedPair} :
    readPairs texts = .error e ↔ ∃ before text after, texts = before ++ text :: after ∧
      (∀ earlier ∈ before, IsPair earlier) ∧ ¬ IsPair text ∧ e = ⟨text⟩ := by
  rw [readPairs, Outcome.error_map_iff, mapM_eq_error_iff]
  simp only [exists_readPair_iff, readPair_eq_error_iff]

/-- A key has the value that the last of its pairs gives it. -/
theorem get?_of_readPairs (h : readPairs texts = .ok t) :
    t.get? key = some value ↔ LastAssigned Gives texts key value := by
  obtain ⟨pairs, hpairs, rfl⟩ := Outcome.ok_of_map h
  rw [get?, ofPairs, Keyed.lookup_putAll, List.lookup_nil, Option.or_none]
  exact lookup_reverse_of_mapM (fun _ _ _ => readPair_eq_ok_iff) hpairs key value

/-- The keys come in the order of their first pairs. -/
theorem keys_of_readPairs (h : readPairs texts = .ok t) :
    ∃ pairs, List.Forall₂ (fun text (key, value) => Gives text key value) texts pairs ∧
      Keyed.keys t.entries = (Keyed.keys pairs).eraseDups := by
  obtain ⟨pairs, hpairs, rfl⟩ := Outcome.ok_of_map h
  refine ⟨pairs, ?_, Keyed.keys_putAll pairs⟩
  exact (forall₂_of_mapM hpairs).imp fun _ _ hread => readPair_eq_ok_iff.1 hread

/-- Tags that can be written are read back in their order. -/
theorem readPairs_writePairs (hkeys : (Keyed.keys t.entries).Nodup)
    (h : ∀ pair ∈ t.entries, Writable pair.1 pair.2) : readPairs t.writePairs = .ok t := by
  rw [writePairs, readPairs_writePair h, ofPairs, Keyed.putAll_of_nodup hkeys]

/-- Tags that were read can be written. -/
theorem writable_of_readPairs (h : readPairs texts = .ok t) :
    (Keyed.keys t.entries).Nodup ∧ ∀ pair ∈ t.entries, Writable pair.1 pair.2 := by
  have hnodup : (Keyed.keys t.entries).Nodup := by
    obtain ⟨pairs, -, rfl⟩ := Outcome.ok_of_map h
    have hnil : (Keyed.keys ([] : List (String × String))).Nodup := List.nodup_nil
    exact Keyed.nodup_keys_putAll hnil pairs
  refine ⟨hnodup, fun pair hpair => ?_⟩
  -- Every pair of the tags comes from the last text that gives its key a value.
  have hget : t.get? pair.1 = some pair.2 := (Keyed.lookup_eq_some_iff_mem hnodup _ _).2 hpair
  obtain ⟨-, text, -, -, hgives, -⟩ := (get?_of_readPairs h).1 hget
  exact writable_of_gives hgives

end Tags

/-! ### The whole -/

/-- **Pairs are read and written.**  Texts can be read as tags exactly if each of them is a pair, and
    otherwise the first that is none is refused.  In what was read a key has the value that the last of
    its pairs gives it, and the keys come in the order of their first pairs.  Tags that can be written
    as pairs are read back from these as they were, in their order, and so are tags that were read. -/
theorem pairs_read_and_written (texts : List String) :
    ((∃ t, Tags.readPairs texts = .ok t) ↔ ∀ text ∈ texts, Tags.IsPair text) ∧
    (∀ t, Tags.readPairs texts = .ok t →
      (∀ key value, t.get? key = some value ↔ LastAssigned Tags.Gives texts key value) ∧
      ∃ pairs, List.Forall₂ (fun text (key, value) => Tags.Gives text key value) texts pairs ∧
        Keyed.keys t.entries = (Keyed.keys pairs).eraseDups) ∧
    (∀ e, Tags.readPairs texts = .error e ↔
      ∃ before text after, texts = before ++ text :: after ∧
        (∀ earlier ∈ before, Tags.IsPair earlier) ∧ ¬ Tags.IsPair text ∧ e = ⟨text⟩) ∧
    (∀ t : Tags, (Keyed.keys t.entries).Nodup →
      (∀ pair ∈ t.entries, Tags.Writable pair.1 pair.2) → Tags.readPairs t.writePairs = .ok t) ∧
    (∀ t, Tags.readPairs texts = .ok t → Tags.readPairs t.writePairs = .ok t) := by
  refine ⟨Tags.exists_readPairs_iff, ?_, fun e => Tags.readPairs_eq_error_iff, ?_, ?_⟩
  · intro t h
    exact ⟨fun key value => Tags.get?_of_readPairs h, Tags.keys_of_readPairs h⟩
  · intro t hkeys hwritable
    exact Tags.readPairs_writePairs hkeys hwritable
  · intro t h
    obtain ⟨hkeys, hwritable⟩ := Tags.writable_of_readPairs h
    exact Tags.readPairs_writePairs hkeys hwritable

/-- A key that is written twice, once with a value that holds an equals sign; a key of blanks before a
    text without an equals sign; and a value that is empty. -/
theorem pairs_read_and_written_of_names :
    let texts := [" name = a=b ", "oneway= no", "name=\u2003c d "]
    let t : Tags := ⟨[("name", "c d"), ("oneway", "no")]⟩
    let u : Tags := ⟨[("ref name", "a = b"), ("note", "")]⟩
    Tags.readPairs texts = .ok t ∧ (∀ text ∈ texts, Tags.IsPair text) ∧
      LastAssigned Tags.Gives texts "name" "c d" ∧ Tags.readPairs t.writePairs = .ok t ∧
      Tags.readPairs ["name=c", "\t=d", "name"] = .error ⟨"\t=d"⟩ ∧
      Tags.readPairs u.writePairs = .ok u := by
  intro texts t u
  have hread : Tags.readPairs texts = .ok t := by rfl
  obtain ⟨hpairs, hgiven, -, hwritten, hagain⟩ := pairs_read_and_written texts
  obtain ⟨-, -, hrefused, -, -⟩ := pairs_read_and_written ["name=c", "\t=d", "name"]
  refine ⟨hread, hpairs.1 ⟨t, hread⟩, ?_, hagain t hread, ?_, ?_⟩
  · exact ((hgiven t hread).1 "name" "c d").1 rfl
  · exact (hrefused _).2 ⟨["name=c"], "\t=d", ["name"], rfl, by decide, by decide, rfl⟩
  · refine hwritten u (by decide) ?_
    simp only [u, List.forall_mem_cons]
    exact ⟨⟨by decide, by decide, by decide, by decide⟩, ⟨by decide, by decide, by decide, by decide⟩,
      nofun⟩

end RoadAccess
