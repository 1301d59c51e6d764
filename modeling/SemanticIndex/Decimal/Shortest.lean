import SemanticIndex.Decimal.Binary64

/-!
# Shortest decimals

The decimal with the fewest digits to which a given double is the nearest.  The doubles next to a
number leave it an interval whose points round to it; for each count of digits the two neighbours
of the number on that decimal grid are tried, and the first grid with a point in the interval
wins, the nearer point before the other and an even last digit before an odd one.
-/

namespace SemanticIndex

/-- The decimal number `coefficient * 10 ^ power`. -/
structure Decimal where
  /-- The digits, read as a natural number. -/
  coefficient : Nat
  /-- The power of ten of the last digit. -/
  power : Int
deriving DecidableEq, Inhabited

namespace Decimal

/-- Move the trailing zeros of a coefficient into the power, at most `fuel` of them. -/
def stripZeros : Nat → Decimal → Decimal
  | 0, decimal => decimal
  | fuel + 1, decimal =>
    if decimal.coefficient != 0 && decimal.coefficient % 10 == 0 then
      stripZeros fuel ⟨decimal.coefficient / 10, decimal.power + 1⟩
    else decimal

end Decimal

namespace Binary64

/--
The interval of numbers that round to a positive double, as numerators over one denominator: the
lower end, the number itself and the upper end.  The ends belong to it when the significand is
even.
-/
structure Interval where
  low : Nat
  center : Nat
  high : Nat
  denominator : Nat
  /-- Whether the ends belong to the interval. -/
  closed : Bool

/-- The numbers that round to a positive double. -/
def interval (number : Binary64) : Interval :=
  let below :=
    if number.significand == hiddenBit && number.exponent != leastExponent then 1 else 2
  let factor := 1 <<< number.exponent.toNat
  { low := (4 * number.significand - below) * factor
    center := 4 * number.significand * factor
    high := (4 * number.significand + 2) * factor
    denominator := 4 <<< (-number.exponent).toNat
    closed := number.significand % 2 == 0 }

/-- Decide whether a decimal lies in an interval. -/
def Interval.holds
    (interval : Interval)
    (decimal : Decimal) : Bool :=
  let (point, unit) := scaleRatio 10 decimal.coefficient 1 decimal.power
  let scaled := point * interval.denominator
  if interval.closed then interval.low * unit ≤ scaled && scaled ≤ interval.high * unit
  else interval.low * unit < scaled && scaled < interval.high * unit

/-- The power of ten just above the centre of an interval. -/
def Interval.magnitude (interval : Interval) : Int :=
  let estimate : Int :=
    (Nat.toDigits 10 interval.center).length - (Nat.toDigits 10 interval.denominator).length
  let (bound, unit) := scaleRatio 10 1 1 estimate
  if interval.center * unit < bound * interval.denominator then estimate else estimate + 1

/-- The best decimal of an interval on the grid of the given power, if it has one there. -/
def Interval.onGrid
    (interval : Interval)
    (power : Int) : Option Decimal :=
  let (numerator, denominator) := scaleRatio 10 interval.center interval.denominator (-power)
  let quotient := numerator / denominator
  let remainder := numerator % denominator
  let below : Decimal := ⟨quotient, power⟩
  let above : Decimal := ⟨quotient + 1, power⟩
  match interval.holds below, interval.holds above with
  | true, true =>
    if 2 * remainder < denominator then some below
    else if denominator < 2 * remainder then some above
    else if quotient % 2 == 0 then some below
    else some above
  | true, false => some below
  | false, true => some above
  | false, false => none

/-- The shortest decimal that reads back as the magnitude of a double. -/
def shortest (number : Binary64) : Decimal :=
  if number.significand == 0 then ⟨0, 0⟩
  else
    let interval := number.interval
    let magnitude := interval.magnitude
    let found := (List.range 17).findSome? fun extra =>
      interval.onGrid (magnitude - (extra + 1 : Nat))
    (found.getD ⟨0, 0⟩).stripZeros 17

end Binary64

end SemanticIndex
