namespace RoadAccess.Text

/-!
# Letter case

Words of a fixed vocabulary are recognised whatever the case of their letters.

* `lower` — the letters `A` to `Z` in lower case.  No other character has a lower-case form
  spelled with letters of an option word, so for these words this is the whole rule;
* `upper` — the letters `a` to `z` in upper case, with the dotless `ı` and the long `ſ`, the two
  letters beyond them whose upper-case forms are the letters `I` and `S` alone.
-/

/-- A text in lower case. -/
def lower (s : String) : String := s.map Char.toLower

/-- A letter in upper case. -/
def upperChar (c : Char) : Char :=
  if c = 'ı' then 'I' else if c = 'ſ' then 'S' else c.toUpper

/-- A text in upper case. -/
def upper (s : String) : String := s.map upperChar

end RoadAccess.Text
