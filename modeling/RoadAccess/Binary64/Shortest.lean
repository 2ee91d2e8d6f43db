import RoadAccess.Binary64.Basic

namespace RoadAccess.Binary64

/-!
# The shortest decimal text of a number

A number is written with the fewest digits that read back as the same number, and of two such
texts of equal length with the nearer one.

* `shortestDigits` — those digits and their power of ten;
* `layout` — where the point goes: positional from `10 ^ -4` up to, but not including, `10 ^ 16`,
  always with a digit after the point; with an exponent of at least two digits elsewhere;
* `toText` — the text of a number, `nan`, `inf` and `-inf` included.
-/

/-! ### Digits -/

/-- How often a quotient below one tenth can be multiplied by ten before it reaches it. -/
def zerosAfterPoint : (fuel num den : Nat) → Nat
  | 0, _, _ => 0
  | fuel + 1, num, den => if den ≤ num * 10 then 0 else zerosAfterPoint fuel (num * 10) den + 1

/-- The least `k` with `num / den < 10 ^ k`. -/
def decimalPoint (num den : Nat) : Int :=
  if den ≤ num then digitCount (num / den) else -(zerosAfterPoint 400 num den : Int)

/-- The two multiples of `10 ^ k` around `num / den`, the nearer one first and of two equally near
    ones the even one. -/
def neighbours (num den : Nat) (k : Int) : List Nat :=
  let (n, d) := scaleDown 10 num den k
  let low := n / d
  if roundHalfEven n d = low then [low, low + 1] else [low + 1, low]

/-- The digits and the power of ten of the shortest decimal that reads back as
    `mantissa · 2 ^ exponent`, tried with `count` digits and, while that fails, with more. -/
def searchDigits (mantissa : Nat) (exponent : Int) : (fuel count : Nat) → Nat × Int
  | 0, _ => (mantissa, exponent)
  | fuel + 1, count =>
    let (num, den) := ratio mantissa exponent
    let k := decimalPoint num den - count
    match (neighbours num den k).find? fun d =>
        ofDecimal false d k = .finite false mantissa exponent with
    | some d => (d, k)
    | none => searchDigits mantissa exponent fuel (count + 1)

/-- The digits and the power of ten of the shortest decimal that reads back as
    `mantissa · 2 ^ exponent`.  Seventeen digits always do. -/
def shortestDigits (mantissa : Nat) (exponent : Int) : Nat × Int :=
  searchDigits mantissa exponent 17 1

/-! ### Layout -/

/-- A run of zeros. -/
def zeros (n : Nat) : List Char := List.replicate n '0'

/-- The text of an exponent: a sign and at least two digits. -/
def exponentText (e : Int) : List Char :=
  let ds := Nat.toDigits 10 e.natAbs
  (if e < 0 then '-' else '+') :: zeros (2 - ds.length) ++ ds

/-- The text of `0.ds · 10 ^ point`, for digits without zeros at the end. -/
def layout (ds : List Char) (point : Int) : List Char :=
  if -4 < point ∧ point ≤ 16 then
    if point ≤ 0 then '0' :: '.' :: zeros (-point).toNat ++ ds
    else
      let whole := ds.take point.toNat ++ zeros (point.toNat - ds.length)
      let rest := ds.drop point.toNat
      whole ++ '.' :: (if rest.isEmpty then ['0'] else rest)
  else
    match ds with
    | [] => []
    | d :: rest =>
      d :: (if rest.isEmpty then [] else '.' :: rest) ++ 'e' :: exponentText (point - 1)

/-- The text of a finite magnitude. -/
def magnitudeText (mantissa : Nat) (exponent : Int) : List Char :=
  if mantissa = 0 then ['0', '.', '0']
  else
    let (d, k) := shortestDigits mantissa exponent
    let ds := Nat.toDigits 10 d
    layout (ds.reverse.dropWhile (· = '0')).reverse (k + ds.length)

/-- The sign of a text: nothing for a positive number. -/
def signText (negative : Bool) : List Char := if negative then ['-'] else []

/-- The text of a number. -/
def toText : Binary64 → String
  | .nan => "nan"
  | .infinite negative => String.ofList (signText negative ++ ['i', 'n', 'f'])
  | .finite negative m e => String.ofList (signText negative ++ magnitudeText m e)

end RoadAccess.Binary64
