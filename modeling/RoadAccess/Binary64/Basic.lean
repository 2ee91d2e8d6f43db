namespace RoadAccess

/-!
# Double-precision numbers

The numbers that a tag value written with a point or an exponent stands for: the binary
floating-point numbers of 64 bits, as exact mathematical objects.

* `Binary64.ofRatio` — the number nearest to a quotient, of two equally near ones the even one;
* `Binary64.ofDecimal` — the number nearest to `digits · 10 ^ exponent`.
-/

/-- A double-precision number.  A finite one is `± mantissa · 2 ^ exponent` with
    `mantissa < 2 ^ 53`; the mantissa is at least `2 ^ 52` unless the exponent is the least one,
    `-1074`. -/
inductive Binary64 where
  | nan
  | infinite (negative : Bool)
  | finite (negative : Bool) (mantissa : Nat) (exponent : Int)
  deriving DecidableEq, Repr

namespace Binary64

/-- A mantissa has at most this many bits. -/
def mantissaBits : Nat := 53

/-- The exponent of the smallest numbers. -/
def leastExponent : Int := -1074

/-- The exponent of the largest finite numbers. -/
def greatestExponent : Int := 971

/-- Zero with a sign. -/
def zero (negative : Bool) : Binary64 := .finite negative 0 leastExponent

/-- Both zeros are zero. -/
def isZero : Binary64 → Bool
  | .finite _ 0 _ => true
  | _ => false

/-! ### Rounding -/

/-- A quotient rounded to the nearest integer, half a unit to the even neighbour. -/
def roundHalfEven (num den : Nat) : Nat :=
  let q := num / den
  let r := num % den
  if den < 2 * r ∨ (2 * r = den ∧ q % 2 = 1) then q + 1 else q

/-- The quotient `num / den` divided by `base ^ e`, as a quotient. -/
def scaleDown (base num den : Nat) (e : Int) : Nat × Nat :=
  if 0 ≤ e then (num, den * Nat.pow base e.toNat) else (num * Nat.pow base (-e).toNat, den)

/-- The exponent with which the mantissa of `num / den` has 53 bits, or the least one. -/
def exponentFor (num den : Nat) : Int :=
  -- The quotient lies strictly between `2 ^ (e - 1)` and `2 ^ (e + 1)`.
  let e : Int := (num.log2 : Int) - (den.log2 : Int)
  let low := max (e - mantissaBits) leastExponent
  let (n, d) := scaleDown 2 num den low
  if Nat.pow 2 mantissaBits ≤ n / d then low + 1 else low

/-- The number with this sign nearest to `num / den`. -/
def ofRatio (negative : Bool) (num den : Nat) : Binary64 :=
  if num = 0 then zero negative
  else
    let e := exponentFor num den
    let (n, d) := scaleDown 2 num den e
    let m := roundHalfEven n d
    -- Rounding up may need one bit more.
    let (m, e) := if m = Nat.pow 2 mantissaBits then (m / 2, e + 1) else (m, e)
    if greatestExponent < e then .infinite negative else .finite negative m e

/-- How many decimal digits a number is written with. -/
def digitCount (n : Nat) : Nat := (Nat.toDigits 10 n).length

/-- The number with this sign nearest to `digits · 10 ^ exponent`.  From `10 ^ 310` on all is
    infinite and below `10 ^ -330` all is zero, so no power is computed there. -/
def ofDecimal (negative : Bool) (digits : Nat) (exponent : Int) : Binary64 :=
  let magnitude := (digitCount digits : Int) + exponent
  if digits = 0 ∨ magnitude < -330 then zero negative
  else if 310 < magnitude then .infinite negative
  else
    let (num, den) := scaleDown 10 digits 1 (-exponent)
    ofRatio negative num den

/-! ### Exact values -/

/-- The magnitude of a finite number as a quotient. -/
def ratio (mantissa : Nat) (exponent : Int) : Nat × Nat :=
  scaleDown 2 mantissa 1 (-exponent)

end Binary64

end RoadAccess
