import RoadAccess.Json.Basic
import RoadAccess.Keyed

namespace RoadAccess.Json

/-!
# Reading JSON texts

A reader of JSON that also takes the number words `NaN`, `Infinity` and `-Infinity`.

* blanks are space, tab, line feed and carriage return;
* a text holds no raw control character below `U+0020`; two `\u` escapes that form a surrogate
  pair are one character, and one that stands alone is the replacement character;
* of a field that is given twice the last value counts, in the first place;
* a number without point and exponent is an exact integer, any other one is rounded to double
  precision, so that `1e400` is infinite;
* `parse` — reads a whole text; each reader before it returns what it read and the rest.
-/

/-- The blanks between the parts of a value. -/
def isSpace (c : Char) : Bool := c = ' ' || c = '\t' || c = '\n' || c = '\r'

/-- The characters after the blanks in front. -/
def skipSpace (cs : List Char) : List Char := cs.dropWhile isSpace

/-- The characters after a given beginning, if they begin so. -/
def after? : (beginning cs : List Char) → Option (List Char)
  | [], cs => some cs
  | _ :: _, [] => none
  | p :: ps, c :: cs => if p = c then after? ps cs else none

/-! ### Texts -/

/-- The value of a digit of base sixteen, in either case. -/
def hexValue? (c : Char) : Option Nat :=
  if c.isDigit then some (c.toNat - '0'.toNat)
  else if 'a' ≤ c ∧ c ≤ 'f' then some (c.toNat - 'a'.toNat + 10)
  else if 'A' ≤ c ∧ c ≤ 'F' then some (c.toNat - 'A'.toNat + 10)
  else none

/-- The number that digits of base sixteen stand for. -/
def hexNumber? (cs : List Char) : Option Nat :=
  cs.foldlM (fun n c => (hexValue? c).map (16 * n + ·)) 0

/-- The character that a backslash and a letter stand for. -/
def unescape? : Char → Option Char
  | '"' => some '"'
  | '\\' => some '\\'
  | '/' => some '/'
  | 'b' => some '\x08'
  | 'f' => some '\x0c'
  | 'n' => some '\n'
  | 'r' => some '\r'
  | 't' => some '\t'
  | _ => none

/-- The code points up to the closing quote, surrogates not yet joined. -/
def readUnits : List Char → Option (List Nat × List Char)
  | [] => none
  | '"' :: rest => some ([], rest)
  | '\\' :: 'u' :: a :: b :: c :: d :: rest => do
    let n ← hexNumber? [a, b, c, d]
    let (units, rest) ← readUnits rest
    return (n :: units, rest)
  | '\\' :: e :: rest => do
    let c ← unescape? e
    let (units, rest) ← readUnits rest
    return (c.toNat :: units, rest)
  | c :: rest =>
    if c = '\\' ∨ c.toNat < 0x20 then none
    else do
      let (units, rest) ← readUnits rest
      return (c.toNat :: units, rest)

/-- The first half of a surrogate pair. -/
def isHighSurrogate (n : Nat) : Bool := 0xD800 ≤ n && n < 0xDC00

/-- The second half of a surrogate pair. -/
def isLowSurrogate (n : Nat) : Bool := 0xDC00 ≤ n && n < 0xE000

/-- The character of a code point; a surrogate has none and is replaced. -/
def unitChar (n : Nat) : Char :=
  if isHighSurrogate n || isLowSurrogate n then '\uFFFD' else Char.ofNat n

/-- The characters of code points, each surrogate pair joined. -/
def joinUnits : List Nat → List Char
  | [] => []
  | [n] => [unitChar n]
  | h :: l :: rest =>
    if isHighSurrogate h && isLowSurrogate l then
      Char.ofNat (0x10000 + (h - 0xD800) * 0x400 + (l - 0xDC00)) :: joinUnits rest
    else unitChar h :: joinUnits (l :: rest)

/-- The text after an opening quote. -/
def readText (cs : List Char) : Option (String × List Char) :=
  (readUnits cs).map fun (units, rest) => (String.ofList (joinUnits units), rest)

/-! ### Numbers -/

/-- The number that decimal digits stand for. -/
def decimalNumber (ds : List Char) : Nat :=
  ds.foldl (fun n d => 10 * n + (d.toNat - '0'.toNat)) 0

/-- The digits in front. -/
def readDigits (cs : List Char) : List Char × List Char :=
  (cs.takeWhile Char.isDigit, cs.dropWhile Char.isDigit)

/-- The digits before the point: a zero alone, or digits that do not start with one. -/
def readWhole : List Char → Option (List Char × List Char)
  | '0' :: rest => some (['0'], rest)
  | cs =>
    let (ds, rest) := readDigits cs
    if ds.isEmpty then none else some (ds, rest)

/-- The digits after a point, if a point with digits stands there. -/
def readFraction : List Char → Option (List Char × List Char)
  | '.' :: cs =>
    let (ds, rest) := readDigits cs
    if ds.isEmpty then none else some (ds, rest)
  | _ => none

/-- A sign in front: whether it is negative. -/
def readSign : List Char → Bool × List Char
  | '-' :: rest => (true, rest)
  | '+' :: rest => (false, rest)
  | cs => (false, cs)

/-- The exponent, if an exponent with digits stands there. -/
def readExponent : List Char → Option (Int × List Char)
  | c :: cs =>
    if c = 'e' ∨ c = 'E' then
      let (negative, cs) := readSign cs
      let (ds, rest) := readDigits cs
      let n : Int := decimalNumber ds
      if ds.isEmpty then none else some (if negative then -n else n, rest)
    else none
  | [] => none

/-- A number without its sign. -/
def readMagnitude (negative : Bool) (cs : List Char) : Option (Json × List Char) := do
  let (whole, cs) ← readWhole cs
  let fraction := readFraction cs
  let (places, cs) := fraction.getD ([], cs)
  let exponent := readExponent cs
  let (e, cs) := exponent.getD (0, cs)
  let n := decimalNumber (whole ++ places)
  if fraction.isNone && exponent.isNone then
    return (.int (if negative then -n else n), cs)
  else
    return (.real (.ofDecimal negative n (e - places.length)), cs)

/-- A number. -/
def readNumber : List Char → Option (Json × List Char)
  | '-' :: cs => readMagnitude true cs
  | cs => readMagnitude false cs

/-! ### Words -/

/-- The words that stand for a value. -/
def literals : List (String × Json) :=
  [("null", .null), ("true", .bool true), ("false", .bool false), ("NaN", .real .nan),
    ("Infinity", .real (.infinite false)), ("-Infinity", .real (.infinite true))]

/-- A word that stands for a value. -/
def readLiteral (cs : List Char) : Option (Json × List Char) :=
  literals.findSome? fun (word, v) => (after? word.toList cs).map (v, ·)

/-! ### Values -/

mutual

/-- The value that starts here.  Each nested call passes at least one character or goes from a
    list or object to its first part, so twice the length is fuel enough. -/
def readValue : Nat → List Char → Option (Json × List Char)
  | 0, _ => none
  | fuel + 1, cs =>
    match cs with
    | '"' :: rest => (readText rest).map fun (s, rest) => (.text s, rest)
    | '[' :: rest =>
      match skipSpace rest with
      | ']' :: rest => some (.array [], rest)
      | rest => (readItems fuel rest).map fun (items, rest) => (.array items, rest)
    | '\x7b' :: rest =>
      match skipSpace rest with
      | '\x7d' :: rest => some (.object [], rest)
      | rest => (readFields fuel [] rest).map fun (fields, rest) => (.object fields, rest)
    | cs => (readLiteral cs).or (readNumber cs)

/-- The items of a list, up to its closing bracket. -/
def readItems : Nat → List Char → Option (List Json × List Char)
  | 0, _ => none
  | fuel + 1, cs => do
    let (v, rest) ← readValue fuel cs
    match skipSpace rest with
    | ']' :: rest => return ([v], rest)
    | ',' :: rest =>
      let (vs, rest) ← readItems fuel (skipSpace rest)
      return (v :: vs, rest)
    | _ => none

/-- The fields of an object, up to its closing brace, added to those already read. -/
def readFields : Nat → List (String × Json) → List Char →
    Option (List (String × Json) × List Char)
  | 0, _, _ => none
  | fuel + 1, fields, cs =>
    match cs with
    | '"' :: rest => do
      let (k, rest) ← readText rest
      match skipSpace rest with
      | ':' :: rest =>
        let (v, rest) ← readValue fuel (skipSpace rest)
        let fields := Keyed.put fields k v
        match skipSpace rest with
        | '\x7d' :: rest => return (fields, rest)
        | ',' :: rest => readFields fuel fields (skipSpace rest)
        | _ => none
      | _ => none
    | _ => none

end

/-- The value that a text holds, if it is a JSON text. -/
def parse (s : String) : Option Json := do
  let cs := skipSpace s.toList
  let (v, rest) ← readValue (2 * cs.length + 2) cs
  if (skipSpace rest).isEmpty then return v else none

end RoadAccess.Json
