import SemanticIndex.Json.Value

/-!
# Number literals

`Numeral.read?` reads a whole number literal: an optional minus sign, digits without a superfluous
leading zero, an optional fraction and an optional exponent.  `Numeral.value?` gives it a value;
only numbers beyond the range of doubles have none.

A double is not the one nearest to its literal.  The digits are taken into a significand of 64
bits, which is rounded and then scaled by a rounded power of ten, so the last place may be off.
-/

namespace SemanticIndex.Json

/-- A number literal. -/
structure Numeral where
  negative : Bool
  /-- The digits before the point. -/
  whole : List Char
  /-- The digits after the point. -/
  places : List Char
  exponent : Int
  /-- Whether it has neither point nor exponent. -/
  integral : Bool
deriving DecidableEq, Inhabited

/-- The number that a list of decimal digits denotes. -/
def digitsValue (digits : List Char) : Nat :=
  digits.foldl (fun total digit => 10 * total + (digit.toNat - 48)) 0

namespace Numeral

/-- Split off the decimal digits that a list of characters starts with. -/
def digits (characters : List Char) : List Char × List Char :=
  (characters.takeWhile Char.isDigit, characters.dropWhile Char.isDigit)

/-- Read the digits after a point; without a point there are none. -/
def readPlaces? : List Char → Option (List Char × List Char)
  | '.' :: rest =>
    let (places, rest) := digits rest
    if places.isEmpty then none else some (places, rest)
  | rest => some ([], rest)

/-- Read the digits of an exponent up to the end of the literal. -/
def readPower? (negative : Bool) (characters : List Char) : Option Int :=
  let (power, rest) := digits characters
  if power.isEmpty || !rest.isEmpty then none
  else some (if negative then -(digitsValue power : Int) else digitsValue power)

/-- Read an exponent that fills the rest of the literal; nothing counts as zero. -/
def readExponent? : List Char → Option Int
  | [] => some 0
  | mark :: rest =>
    if mark == 'e' || mark == 'E' then
      match rest with
      | '-' :: power => readPower? true power
      | '+' :: power => readPower? false power
      | power => readPower? false power
    else none

/-- Read a literal without its minus sign. -/
def readUnsigned? (negative : Bool) (characters : List Char) : Option Numeral := do
  let (whole, rest) := digits characters
  if whole.isEmpty || (whole.head? == some '0' && whole.length != 1) then none
  else
    let (places, tail) ← readPlaces? rest
    let exponent ← readExponent? tail
    some ⟨negative, whole, places, exponent, rest.isEmpty⟩

/-- Read a whole number literal. -/
def read? : List Char → Option Numeral
  | '-' :: rest => readUnsigned? true rest
  | rest => readUnsigned? false rest

/-- Take digits into a significand while it stays below `2 ^ 64`, and leave the others. -/
def gather (significand : Nat) (digits : List Char) : Nat × List Char :=
  match digits with
  | [] => (significand, [])
  | digit :: rest =>
    let longer := 10 * significand + (digit.toNat - 48)
    if longer < UInt64.size then gather longer rest else (significand, digit :: rest)

/--
The significand and the power of ten from which a double is computed.  Digits left before the point
count as zeros, those left after it not at all.
-/
def scientific (numeral : Numeral) : Nat × Int :=
  let (significand, zeros) := gather 0 numeral.whole
  let (significand, ignored) := gather significand numeral.places
  (significand, numeral.exponent + zeros.length - (numeral.places.length - ignored.length : Nat))

/-- The double that is computed for a number literal, or nothing beyond the range of doubles. -/
def double? (numeral : Numeral) : Option Binary64 := do
  let (significand, power) := numeral.scientific
  let rounded ← Binary64.ofRatio false significand 1
  let scaled ← rounded.scaleTen? power
  some { scaled with negative := numeral.negative }

/-- The value of a number literal, or nothing beyond the range of doubles. -/
def value? (numeral : Numeral) : Option Json :=
  let coefficient := digitsValue numeral.whole
  if numeral.integral && !numeral.negative && coefficient < UInt64.size then
    some (.integer coefficient)
  else if numeral.integral && numeral.negative && 0 < coefficient &&
      Int64.minValue.toInt ≤ -coefficient then
    some (.integer (-coefficient))
  else numeral.double?.map Json.fraction

end Numeral

end SemanticIndex.Json
