import RoadAccess.Command.Invocation
import RoadAccess.Profile.Description
import RoadAccess.Proofs.OptionTexts

namespace RoadAccess

/-!
# Flags as options

The flags of a command line say nothing that its options text could not say at its end: whatever the
text is, with an item for each flag behind it the text alone comes to the profile of the settings, or
is refused for the same reason.

* `Command.Settings.text` — the options text with the flags behind it;
* `Options.read_flag` — one flag;
* `Command.Settings.read_text` — what the text comes to;
* `flags_are_options` — the whole.
-/

/-! ### One flag -/

/-- The item of a flag behind a text changes its option, if the flag is given. -/
theorem Options.read_flag {item : String} {name : OptionName} {b : Bool}
    (h : assignments item = .ok [(name, b)]) (s : String) (given : Bool) :
    read (s ++ if given then "|" ++ item else "") =
      (read s).map fun o => if given then o.set name b else o := by
  cases given with
  | false =>
    rw [if_neg Bool.false_ne_true, String.append_empty]
    cases read s <;> rfl
  | true =>
    rw [if_pos rfl, ← String.append_assoc, read_append h]
    rfl

namespace Command

/-- The options text with an item for each flag behind it. -/
def Settings.text (s : Settings) : String :=
  s.options.getD "" ++ (if s.blockFords then "|block_fords=true" else "") ++
    if s.allowPrivate then "|block_private=false" else ""

/-- Applying the flags is setting their options. -/
theorem Settings.applyFlags_eq (s : Settings) (o : Options) :
    s.applyFlags o =
      let o := if s.blockFords then o.set .blockFords true else o
      if s.allowPrivate then o.set .blockPrivate false else o := by
  cases hfords : s.blockFords <;> cases hprivate : s.allowPrivate <;>
    simp [Settings.applyFlags, hfords, hprivate, Options.set]

/-- The text comes to the options of the settings. -/
theorem Settings.read_text (s : Settings) : Options.read s.text = s.profileOptions := by
  have hfords : Options.assignments "block_fords=true" = .ok [(.blockFords, true)] := by
    decide +kernel
  have hprivate : Options.assignments "block_private=false" = .ok [(.blockPrivate, false)] := by
    decide +kernel
  -- An item for a flag is a text of its own, with a bar before it.
  have htext : s.text =
      (s.options.getD "" ++ if s.blockFords then "|" ++ "block_fords=true" else "") ++
        if s.allowPrivate then "|" ++ "block_private=false" else "" := rfl
  rw [htext, Options.read_flag hprivate, Options.read_flag hfords, Settings.profileOptions]
  cases Options.read (s.options.getD "") with
  | error fault => rfl
  | ok o => exact congrArg Except.ok (s.applyFlags_eq o).symm

end Command

namespace Profile

/-- A profile that is described by an options text has the options that the text is read as. -/
theorem ofOptions_text (text : String) :
    ofOptions (.text text) = ((Options.read text).map bicycle).mapError .badOptions := by
  have htext : Options.ofJson? (.text text) = some (Options.read text) := by
    by_cases hempty : text = ""
    · -- An empty text says nothing, but it would come to the defaults if it were read.
      subst hempty
      rfl
    · rw [Options.ofJson?, if_pos (show (Json.text text).truthy = true from decide_eq_true hempty)]
  rw [ofOptions, htext]
  cases Options.read text <;> rfl

end Profile

/-! ### The whole -/

/-- **Flags are options at the end of the text.**  The settings have no profile exactly if their options
    text is refused, and for the same reason, whatever flags are given.  Otherwise their profile is the
    one that the text describes with the items of the flags behind it, whatever it says before; and
    where there is neither a text nor a flag it is the one that nothing describes. -/
theorem flags_are_options (s : Command.Settings) :
    (∀ fault, s.profile = .error fault ↔ Options.read (s.options.getD "") = .error fault) ∧
    Profile.ofOptions (.text s.text) = s.profile.mapError .badOptions ∧
    (s.text = "" → Profile.ofOptions .null = s.profile.mapError .badOptions) := by
  have htext : Profile.ofOptions (.text s.text) = s.profile.mapError .badOptions := by
    rw [Profile.ofOptions_text, s.read_text]
    rfl
  refine ⟨fun fault => ?_, htext, fun hempty => ?_⟩
  · -- The flags come after the text was read, so they can neither refuse it nor save it.
    rw [Command.Settings.profile, Outcome.error_map_iff, Command.Settings.profileOptions,
      Outcome.error_map_iff]
  · rw [← htext, hempty]
    rfl

/-- Both flags behind a text that says the contrary twice and ends with a bar; one behind a text that
    is refused; and neither a text nor a flag. -/
theorem flags_are_options_against_text :
    let s : Command.Settings :=
      { blockFords := true, allowPrivate := true,
        options := some "block_fords=no|block_private=on|block_fords=off| " }
    let s' : Command.Settings := { blockFords := true, options := some "block_fords" }
    let s'' : Command.Settings := {}
    s.text = "block_fords=no|block_private=on|block_fords=off| |block_fords=true|block_private=false" ∧
      s.profile = .ok (Profile.bicycle { blockFords := true, blockPrivate := false }) ∧
      Profile.ofOptions (.text s.text) =
        .ok (Profile.bicycle { blockFords := true, blockPrivate := false }) ∧
      s'.profile = .error (.malformed "block_fords") ∧
      s''.text = "" ∧ Profile.ofOptions .null = s''.profile.mapError .badOptions := by
  intro s s' s''
  have h : s.profile = .ok (Profile.bicycle { blockFords := true, blockPrivate := false }) := by
    decide +kernel
  obtain ⟨-, htext, -⟩ := flags_are_options s
  obtain ⟨hrefused, -, -⟩ := flags_are_options s'
  obtain ⟨-, -, hnothing⟩ := flags_are_options s''
  refine ⟨by rfl, h, ?_, (hrefused _).2 (by decide +kernel), by rfl, hnothing (by rfl)⟩
  rw [htext, h]
  rfl

end RoadAccess
