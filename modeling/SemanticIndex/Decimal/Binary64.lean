/-!
# Finite double-precision numbers

A finite double is a sign, a significand below `2 ^ 53` and a power of two.  Rational numbers and
decimals are rounded to the nearest double, ties to the even significand, by exact arithmetic on
natural numbers; so are products and quotients.
-/

namespace SemanticIndex

/--
A finite IEEE 754 double: the number `significand * 2 ^ exponent` with a sign.  The significand
lies in `[2 ^ 52, 2 ^ 53)`, or below it at the least exponent `-1074`.
-/
structure Binary64 where
  /-- Whether the sign bit is set. -/
  negative : Bool
  /-- The integral significand. -/
  significand : Nat
  /-- The power of two of the last place. -/
  exponent : Int
deriving DecidableEq, Inhabited

namespace Binary64

/-- The exponent of the subnormal numbers. -/
def leastExponent : Int := -1074

/-- The exponent of the largest finite numbers. -/
def greatestExponent : Int := 971

/-- The least significand of a normal number, `2 ^ 52`. -/
def hiddenBit : Nat := 0x10000000000000

/-- Zero with the given sign. -/
def zero (negative : Bool) : Binary64 :=
  ⟨negative, 0, leastExponent⟩

/-- Divide and round to the nearest integer, ties to the even one. -/
def roundQuotient (numerator denominator : Nat) : Nat :=
  let quotient := numerator / denominator
  let remainder := numerator % denominator
  if 2 * remainder < denominator then quotient
  else if denominator < 2 * remainder then quotient + 1
  else if quotient % 2 == 0 then quotient
  else quotient + 1

/-- Scale a ratio by a power of the base, as a new ratio of natural numbers. -/
def scaleRatio
    (base numerator denominator : Nat)
    (power : Int) : Nat × Nat :=
  (numerator * base.pow power.toNat, denominator * base.pow (-power).toNat)

/-- The double nearest to a ratio, or nothing beyond the finite range. -/
def ofRatio
    (negative : Bool)
    (numerator denominator : Nat) : Option Binary64 :=
  if numerator == 0 then some (zero negative)
  else
    let estimate : Int := (Nat.log2 numerator : Int) - Nat.log2 denominator
    let low := max (estimate - 53) leastExponent
    let (scaled, unit) := scaleRatio 2 numerator denominator (-low)
    let exponent := if 2 * hiddenBit ≤ scaled / unit then low + 1 else low
    let (scaled, unit) := scaleRatio 2 numerator denominator (-exponent)
    let rounded := roundQuotient scaled unit
    let (significand, exponent) :=
      if rounded == 2 * hiddenBit then (hiddenBit, exponent + 1) else (rounded, exponent)
    if greatestExponent < exponent then none
    else some ⟨negative, significand, exponent⟩

/--
The double nearest to `coefficient * 10 ^ power`, or nothing beyond the finite range.  Numbers
from `10 ^ 310` on overflow and numbers below `10 ^ -330` vanish, so neither is computed.
-/
def ofDecimal
    (negative : Bool)
    (coefficient : Nat)
    (power : Int) : Option Binary64 :=
  let magnitude : Int := (Nat.toDigits 10 coefficient).length + power
  if coefficient == 0 then some (zero negative)
  else if 310 < magnitude then none
  else if magnitude < -330 then some (zero negative)
  else
    let (numerator, denominator) := scaleRatio 10 coefficient 1 power
    ofRatio negative numerator denominator

/-! ## Arithmetic -/

/-- The magnitude of a number as a ratio. -/
def ratio (number : Binary64) : Nat × Nat :=
  scaleRatio 2 number.significand 1 number.exponent

/-- The product of two numbers, rounded, or nothing beyond the finite range. -/
def times? (one other : Binary64) : Option Binary64 :=
  ofRatio (one.negative != other.negative) (one.ratio.1 * other.ratio.1)
    (one.ratio.2 * other.ratio.2)

/-- The quotient of two numbers, rounded, or nothing beyond the finite range; not for zero. -/
def over? (one other : Binary64) : Option Binary64 :=
  ofRatio (one.negative != other.negative) (one.ratio.1 * other.ratio.2)
    (one.ratio.2 * other.ratio.1)

/-- The greatest power of ten below the end of the finite range. -/
def greatestTen : Nat := 308

/-- The number nearest to a power of ten, up to the greatest one. -/
def powerOfTen (power : Nat) : Binary64 :=
  (ofRatio false (Nat.pow 10 power) 1).getD (zero false)

/-- Divide by a power of ten, by the greatest one as often as it fits; zero stays as it is. -/
def overTen? (number : Binary64) (power : Nat) : Option Binary64 :=
  if power ≤ greatestTen then number.over? (powerOfTen power)
  else if number.significand = 0 then some number
  else do overTen? (← number.over? (powerOfTen greatestTen)) (power - greatestTen)
termination_by power
decreasing_by
  have positive : 0 < greatestTen := by decide
  omega

/--
Multiply by a power of ten, which is rounded beforehand.  Beyond the greatest power of ten only
zero has a product.
-/
def scaleTen? (number : Binary64) (power : Int) : Option Binary64 :=
  if power < 0 then number.overTen? power.natAbs
  else if power ≤ greatestTen then number.times? (powerOfTen power.natAbs)
  else if number.significand = 0 then some number
  else none

end Binary64

end SemanticIndex
