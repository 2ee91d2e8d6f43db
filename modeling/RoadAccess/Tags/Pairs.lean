import RoadAccess.Tags.Basic

namespace RoadAccess.Tags

/-!
# Tags written as pairs

A tag can be written `key=value`.  Only the first equals sign separates, so a value may hold more;
blanks around the key and around the value are dropped, and of a key that is written twice the
last value counts.
-/

/-- A text that is no pair: it has no equals sign, or only blanks before it. -/
structure MalformedPair where
  pair : String
  deriving DecidableEq, Repr

/-- The message about a text that is no pair. -/
def MalformedPair.message (e : MalformedPair) : String :=
  s!"Tag inválida: {Text.quoted e.pair}. Esperado: chave=valor"

/-- The key and the value of a pair. -/
def readPair (pair : String) : Except MalformedPair (String × String) :=
  match Text.cut '=' pair.toList with
  | none => .error ⟨pair⟩
  | some (key, value) =>
    if (Text.stripChars key).isEmpty then .error ⟨pair⟩
    else .ok (String.ofList (Text.stripChars key), String.ofList (Text.stripChars value))

/-- The tags written as pairs; the first text that is no pair is refused. -/
def readPairs (pairs : List String) : Except MalformedPair Tags :=
  (pairs.mapM readPair).map ofPairs

/-- A tag as a pair. -/
def writePair (key value : String) : String := key ++ "=" ++ value

/-- The tags as pairs, in order. -/
def writePairs (t : Tags) : List String := t.entries.map fun (k, v) => writePair k v

end RoadAccess.Tags
