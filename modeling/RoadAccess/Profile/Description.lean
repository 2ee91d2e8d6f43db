import RoadAccess.Profile.Basic

namespace RoadAccess.Profile

/-!
# Profiles described by options

The bicycle profile can be given by its options.

* `ofOptions` — the profile that an options text describes; a value that says nothing describes the one
  with the defaults.
-/

/-- Why a value describes no profile. -/
inductive DescriptionFault where
  /-- The options are no text. -/
  | optionsNotText
  /-- The options text is refused. -/
  | badOptions (fault : OptionFault)
  deriving DecidableEq, Repr

/-- The bicycle profile with the options that a value describes. -/
def ofOptions (v : Json) : Except DescriptionFault Profile :=
  match Options.ofJson? v with
  | none => .error .optionsNotText
  | some (.error fault) => .error (.badOptions fault)
  | some (.ok o) => .ok (bicycle o)

end RoadAccess.Profile
