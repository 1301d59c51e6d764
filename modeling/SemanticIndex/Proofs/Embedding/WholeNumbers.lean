import Mathlib.Data.Nat.Log
import Mathlib.Tactic.Ring

/-!
# Whole numbers in single precision

A whole number of less than 24 bits has a form in single precision with all its bits, whatever
power of two it is given with.  So sums of such numbers are exact as long as they stay below
`2 ^ 24`, and zero is positive zero, from wherever it is reached.
-/

namespace SemanticIndex.SinglePrecision

open Float.Model (Format UnpackedFloat totalExponent)
open Float.Model.UnpackedFloat

/-! ## Rounding without loss -/

theorem targetExponent_eq (exponent : Int) :
    Format.binary32.targetExponent exponent = max (exponent - 24) (-149) :=
  rfl

theorem finite_eq
    {sign otherSign : Sign}
    {mantissa otherMantissa : Nat}
    {exponent otherExponent : Int}
    {positive : 0 < mantissa}
    {otherPositive : 0 < otherMantissa}
    (sameSign : sign = otherSign)
    (sameMantissa : mantissa = otherMantissa)
    (sameExponent : exponent = otherExponent) :
    UnpackedFloat.finite sign mantissa exponent positive =
      .finite otherSign otherMantissa otherExponent otherPositive := by
  subst sameSign sameMantissa sameExponent
  rfl

theorem log2_scaled {number : Nat} (positive : 0 < number) (power : Nat) :
    (number * 2 ^ power).log2 = number.log2 + power := by
  induction power with
  | zero => simp
  | succ power induction =>
    have scaled : number * 2 ^ (power + 1) = 2 * (number * 2 ^ power) := by ring
    have nonzero : number * 2 ^ power ≠ 0 :=
      Nat.ne_of_gt (Nat.mul_pos positive (Nat.two_pow_pos power))
    rw [scaled, Nat.log2_two_mul nonzero, induction, Nat.add_assoc]

/-- Shifting out zeros leaves a mantissa exact. -/
theorem shiftRight_scaled (mantissa power : Nat) :
    (ExtendedMantissa.mk (mantissa * 2 ^ power) false false) >>> power =
      ExtendedMantissa.mk mantissa false false := by
  induction power generalizing mantissa with
  | zero => simp [HShiftRight.hShiftRight, Nat.repeat]
  | succ power induction =>
    have scaled : mantissa * 2 ^ (power + 1) = mantissa * 2 * 2 ^ power := by ring
    have shifted := induction (mantissa * 2)
    rw [scaled]
    change ((ExtendedMantissa.mk (mantissa * 2 * 2 ^ power) false false) >>> power).shiftRightOne
      = _
    rw [shifted]
    simp [ExtendedMantissa.shiftRightOne]

section Mantissas

variable {mantissa : Nat} (least : 2 ^ 23 ≤ mantissa) (most : mantissa < 2 ^ 24)

include least most

theorem log2_mantissa : mantissa.log2 = 23 :=
  (Nat.log2_eq_iff (by omega)).mpr ⟨least, most⟩

theorem shiftToTargetExponent_scaled
    {exponent : Int}
    (inRange : -149 ≤ exponent)
    (power : Nat) :
    shiftToTargetExponent .binary32 (mantissa * 2 ^ power) (exponent - power) .exact =
      (ExtendedMantissa.mk mantissa false false, exponent) := by
  have log := log2_scaled (by omega : 0 < mantissa) power
  rw [log2_mantissa least most] at log
  have target : Format.binary32.targetExponent
      (totalExponent (mantissa * 2 ^ power) (exponent - power)) = exponent := by
    rw [targetExponent_eq, totalExponent, log]
    omega
  have amount : (exponent - (exponent - power)).toNat = power := by omega
  simp only [shiftToTargetExponent, target, shiftToExponent, amount,
    ExtendedMantissa.ofMantissaAndAccuracy, shiftRight_scaled]
  congr 1
  omega

/-- A mantissa of 24 bits is rounded to itself, whatever zeros stand behind it. -/
theorem roundWithAccuracy_scaled
    (sign : Sign)
    {exponent : Int}
    (inRange : -149 ≤ exponent)
    (power : Nat) :
    roundWithAccuracy .binary32 sign (mantissa * 2 ^ power) (exponent - power) .exact =
      .finite sign mantissa exponent (by omega) := by
  have again := shiftToTargetExponent_scaled least most inRange 0
  rw [pow_zero, Nat.mul_one, Nat.cast_zero, Int.sub_zero] at again
  -- The second shift finds a mantissa that has not overflowed.
  let shifted := shiftToTargetExponent .binary32 mantissa exponent .exact
  have sameMantissa : shifted.1.mantissa = mantissa := congrArg (·.1.mantissa) again
  have sameExponent : shifted.2 = exponent := congrArg (·.2) again
  have nonzero : ¬shifted.1.mantissa = 0 := by omega
  rw [roundWithAccuracy, shiftToTargetExponent_scaled least most inRange power]
  exact (dif_neg nonzero).trans (finite_eq rfl sameMantissa sameExponent)

end Mantissas

/-! ## Forms of whole numbers -/

/-- The mantissa of 24 bits that a positive number of at most so many bits has. -/
def significand (number : Nat) : Nat :=
  number * 2 ^ (23 - number.log2)

section Positive

variable {number : Nat} (positive : 0 < number)

include positive

theorem significand_pos : 0 < significand number :=
  Nat.mul_pos positive (Nat.two_pow_pos _)

variable (small : number < 2 ^ 24)

include small

theorem log2_le : number.log2 ≤ 23 :=
  Nat.lt_succ_iff.mp ((Nat.log2_lt (Nat.ne_of_gt positive)).mpr small)

theorem significand_bounds : 2 ^ 23 ≤ significand number ∧ significand number < 2 ^ 24 := by
  have log := log2_scaled positive (23 - number.log2)
  have bound := log2_le positive small
  rw [Nat.add_sub_cancel' bound] at log
  exact (Nat.log2_eq_iff (Nat.ne_of_gt (significand_pos positive))).mp log

/-- A whole number is rounded to its form, whatever power of two it is given with. -/
theorem round_scaled (sign : Sign) (power : Nat) :
    UnpackedFloat.round .binary32 sign (number * 2 ^ power) (-power) =
      .finite sign (significand number) (number.log2 - 23) (significand_pos positive) := by
  obtain ⟨least, most⟩ := significand_bounds positive small
  have bound := log2_le positive small
  have target : Format.binary32.targetExponent
      (totalExponent (number * 2 ^ power) (-power)) = number.log2 - 23 := by
    rw [targetExponent_eq, totalExponent, log2_scaled positive]
    omega
  -- The number has to gain digits up to the 24th or has some zeros too many.
  let gained := 23 - number.log2 - power
  let surplus := number.log2 + power - 23
  have amount : (-(power : Int) - (number.log2 - 23)).toNat = gained := by omega
  have digits : power + gained = (23 - number.log2) + surplus := by omega
  have mantissa : (number * 2 ^ power) <<< gained = significand number * 2 ^ surplus := by
    rw [Nat.shiftLeft_eq, Nat.mul_assoc, ← pow_add, digits, pow_add, ← Nat.mul_assoc,
      significand]
  have exponent : -(power : Int) - gained = (number.log2 - 23) - surplus := by omega
  have decreased : decreaseExponent (number * 2 ^ power) (-power) (number.log2 - 23) =
      (significand number * 2 ^ surplus, ((number.log2 : Int) - 23) - surplus) := by
    rw [decreaseExponent, amount, mantissa, exponent]
  rw [UnpackedFloat.round, target, decreased]
  exact roundWithAccuracy_scaled least most sign (by omega) surplus

theorem normalize_scaled (sign : Sign) (power : Nat) :
    UnpackedFloat.normalize .binary32 (sign.apply number * 2 ^ power) (-power) .positive =
      .finite sign (significand number) (number.log2 - 23) (significand_pos positive) := by
  let scaled := number * 2 ^ power
  have scaledPositive : 0 < scaled := Nat.mul_pos positive (Nat.two_pow_pos power)
  have rounded := round_scaled positive small sign power
  cases sign with
  | positive =>
    have mantissa : Sign.positive.apply number * 2 ^ power = (scaled : Int) := by
      simp [Sign.apply, scaled]
    have order : compare (scaled : Int) 0 = .gt := Int.compare_eq_gt.mpr (by omega)
    rw [mantissa, UnpackedFloat.normalize, order]
    exact rounded
  | negative =>
    have mantissa : Sign.negative.apply number * 2 ^ power = -(scaled : Int) := by
      simp [Sign.apply, scaled]
    have order : compare (-(scaled : Int)) 0 = .lt := Int.compare_eq_lt.mpr (by omega)
    rw [mantissa, UnpackedFloat.normalize, order, Int.neg_neg]
    exact rounded

/-- The form of a whole number that is not zero. -/
theorem ofInt_apply (sign : Sign) :
    ofInt .binary32 (sign.apply number) =
      .finite sign (significand number) (number.log2 - 23) (significand_pos positive) := by
  have normalized := normalize_scaled positive small sign 0
  rw [pow_zero, Int.mul_one] at normalized
  exact normalized

end Positive

/-- A whole number is zero or has a sign and a positive magnitude. -/
theorem eq_zero_or_signed (number : Int) :
    number = 0 ∨ ∃ sign : Sign, 0 < number.natAbs ∧ number = sign.apply number.natAbs := by
  by_cases zero : number = 0
  · exact .inl zero
  · have positive : 0 < number.natAbs := Int.natAbs_pos.mpr zero
    rcases Int.natAbs_eq number with nonnegative | negative
    · exact .inr ⟨.positive, positive, nonnegative⟩
    · exact .inr ⟨.negative, positive, negative⟩

/-- A whole number has the form of positive zero or of a finite number. -/
theorem ofInt_cases
    {number : Int}
    (small : number.natAbs < 2 ^ 24) :
    ofInt .binary32 number = .zero .positive ∨
      ∃ sign mantissa exponent positive,
        ofInt .binary32 number = .finite sign mantissa exponent positive := by
  rcases eq_zero_or_signed number with rfl | ⟨sign, positive, split⟩
  · exact .inl rfl
  · have form := ofInt_apply positive small sign
    rw [← split] at form
    exact .inr ⟨_, _, _, _, form⟩

theorem ofInt_scaled
    {number : Int}
    (small : number.natAbs < 2 ^ 24)
    (power : Nat) :
    UnpackedFloat.normalize .binary32 (number * 2 ^ power) (-power) .positive =
      ofInt .binary32 number := by
  rcases eq_zero_or_signed number with rfl | ⟨sign, positive, split⟩
  · rw [Int.zero_mul]
    rfl
  · rw [split, normalize_scaled positive small, ofInt_apply positive small]

/-! ## Packed forms -/

theorem unpackSign_packComponents
    (sign : Sign)
    (exponent : BitVec 8)
    (mantissa : BitVec 23) :
    unpackSign (packComponents .binary32 sign exponent mantissa) = sign.toBitVec := by
  change (sign.toBitVec ++ exponent ++ mantissa).extractLsb' 31 1 = sign.toBitVec
  rw [BitVec.extractLsb'_append_eq_of_le (by decide),
    BitVec.extractLsb'_append_eq_of_le (by decide)]
  exact BitVec.extractLsb'_eq_self

theorem toNat_implicit
    {mantissa : Nat}
    (least : 2 ^ 23 ≤ mantissa)
    (most : mantissa < 2 ^ 24) :
    (1#1 ++ BitVec.ofNat 23 mantissa).toNat = mantissa := by
  rw [BitVec.toNat_append, BitVec.toNat_ofNat, BitVec.toNat_ofNat,
    ← Nat.shiftLeft_add_eq_or_of_lt (Nat.mod_lt _ (Nat.two_pow_pos 23))]
  omega

/-- Bits with neither the least nor the greatest exponent are those of a number of 24 bits. -/
theorem unpack_of_normal
    {bits : BitVec Format.binary32.numBits}
    (finite : unpackExponent bits ≠ -1#8)
    (normal : unpackExponent bits ≠ 0#8) :
    ∃ positive, unpack .binary32 bits =
      .finite (.ofBitVec (unpackSign bits)) (1#1 ++ unpackMantissa bits).toNat
        ((unpackExponent bits).toNat - (127 + 23)) positive :=
  ⟨_, (if_neg finite).trans (if_neg normal)⟩

/-- A number of 24 bits is kept by packing. -/
theorem unpack_pack
    (sign : Sign)
    {mantissa : Nat}
    {exponent : Int}
    (least : 2 ^ 23 ≤ mantissa)
    (most : mantissa < 2 ^ 24)
    (notBelow : -149 ≤ exponent)
    (notAbove : exponent ≤ 104)
    (positive : 0 < mantissa) :
    unpack .binary32 (pack .binary32 (.finite sign mantissa exponent positive)) =
      .finite sign mantissa exponent positive := by
  let biased := (exponent + 127 + 23).toNat
  have biasedValue : (BitVec.ofNat 8 biased).toNat = biased := by
    rw [BitVec.toNat_ofNat]
    omega
  have finite : BitVec.ofNat 8 biased ≠ -1#8 := by
    intro same
    have value : biased = 255 := biasedValue.symm.trans (congrArg BitVec.toNat same)
    omega
  have normal : BitVec.ofNat 8 biased ≠ 0#8 := by
    intro same
    have value : biased = 0 := biasedValue.symm.trans (congrArg BitVec.toNat same)
    omega
  have packed : pack .binary32 (.finite sign mantissa exponent positive) =
      packComponents .binary32 sign (.ofNat 8 biased) (.ofNat 23 mantissa) := by
    have inRange : ¬2 ^ 8 ≤ biased + 1 := by omega
    have log : mantissa.log2 + 1 = Format.binary32.mantissaBits := by
      rw [log2_mantissa least most]
      rfl
    exact (if_neg inRange).trans (if_pos log)
  have unbiased : (biased : Int) - (127 + 23) = exponent := by omega
  let bits := packComponents .binary32 sign (.ofNat 8 biased) (.ofNat 23 mantissa)
  have exponentBits : unpackExponent bits = .ofNat 8 biased := unpackExponent_packComponents ..
  have mantissaBits : unpackMantissa bits = .ofNat 23 mantissa := unpackMantissa_packComponents ..
  have signBits : unpackSign bits = sign.toBitVec := unpackSign_packComponents sign _ _
  obtain ⟨_, unpacked⟩ := unpack_of_normal (exponentBits ▸ finite) (exponentBits ▸ normal)
  rw [packed, unpacked]
  apply finite_eq
  · rw [signBits]
    cases sign <;> rfl
  · rw [mantissaBits]
    exact toNat_implicit least most
  · rw [exponentBits, biasedValue]
    exact unbiased

theorem unpack_pack_ofInt
    {number : Int}
    (small : number.natAbs < 2 ^ 24) :
    (Float32.Model.ofInt number).unpack = ofInt .binary32 number := by
  change unpack .binary32 (pack .binary32 (ofInt .binary32 number)) = ofInt .binary32 number
  rcases eq_zero_or_signed number with rfl | ⟨sign, positive, split⟩
  · rfl
  · obtain ⟨least, most⟩ := significand_bounds positive small
    have bound := log2_le positive small
    rw [split, ofInt_apply positive small]
    exact unpack_pack sign least most (by omega) (by omega) _

/-! ## Sums -/

theorem decreaseExponent_significand
    {number : Nat}
    (positive : 0 < number)
    (small : number < 2 ^ 24)
    {power : Nat}
    (enough : 23 - number.log2 ≤ power) :
    (decreaseExponent (significand number) (number.log2 - 23) (-power)).1 =
      number * 2 ^ power := by
  have bound := log2_le positive small
  have amount : ((number.log2 - 23 : Int) - -power).toNat = power - (23 - number.log2) := by omega
  have digits : 23 - number.log2 + (power - (23 - number.log2)) = power := by omega
  rw [decreaseExponent, amount, Nat.shiftLeft_eq, significand, Nat.mul_assoc, ← pow_add, digits]

theorem apply_scaled (sign : Sign) (number power : Nat) :
    sign.apply ((number * 2 ^ power : Nat) : Int) = sign.apply number * 2 ^ power := by
  cases sign <;> simp [Sign.apply]

theorem zero_add_ofInt
    {number : Int}
    (small : number.natAbs < 2 ^ 24) :
    UnpackedFloat.add .binary32 (ofInt .binary32 0) (ofInt .binary32 number) =
      ofInt .binary32 number := by
  rcases ofInt_cases small with form | ⟨_, _, _, _, form⟩
  all_goals
    rw [form]
    rfl

theorem add_zero_ofInt
    {number : Int}
    (small : number.natAbs < 2 ^ 24) :
    UnpackedFloat.add .binary32 (ofInt .binary32 number) (ofInt .binary32 0) =
      ofInt .binary32 number := by
  rcases ofInt_cases small with form | ⟨_, _, _, _, form⟩
  all_goals
    rw [form]
    rfl

/-- Numbers are added at the smaller one of their exponents. -/
theorem add_finite
    {oneSign otherSign : Sign}
    {one other : Nat}
    {oneExponent otherExponent exponent : Int}
    (onePositive : 0 < one)
    (otherPositive : 0 < other)
    (smaller : min oneExponent otherExponent = exponent) :
    UnpackedFloat.add .binary32 (.finite oneSign one oneExponent onePositive)
        (.finite otherSign other otherExponent otherPositive) =
      .normalize .binary32
        (oneSign.apply (decreaseExponent one oneExponent exponent).1 +
          otherSign.apply (decreaseExponent other otherExponent exponent).1)
        exponent .positive := by
  subst smaller
  rfl

/-- Sums of whole numbers are exact, and a sum of zero is positive zero. -/
theorem add_ofInt
    {one other : Int}
    (oneSmall : one.natAbs < 2 ^ 24)
    (otherSmall : other.natAbs < 2 ^ 24)
    (sumSmall : (one + other).natAbs < 2 ^ 24) :
    UnpackedFloat.add .binary32 (ofInt .binary32 one) (ofInt .binary32 other) =
      ofInt .binary32 (one + other) := by
  rcases eq_zero_or_signed one with rfl | ⟨oneSign, onePositive, oneSplit⟩
  · rw [Int.zero_add]
    exact zero_add_ofInt otherSmall
  rcases eq_zero_or_signed other with rfl | ⟨otherSign, otherPositive, otherSplit⟩
  · rw [Int.add_zero]
    exact add_zero_ofInt oneSmall
  have oneBound := log2_le onePositive oneSmall
  have otherBound := log2_le otherPositive otherSmall
  -- Both are brought to the exponent of the smaller one, which is that of the sum before rounding.
  let power := max (23 - one.natAbs.log2) (23 - other.natAbs.log2)
  have exponent :
      min ((one.natAbs.log2 : Int) - 23) (other.natAbs.log2 - 23) = -(power : Int) := by
    omega
  have oneEnough : 23 - one.natAbs.log2 ≤ power := le_max_left _ _
  have otherEnough : 23 - other.natAbs.log2 ≤ power := le_max_right _ _
  have oneMantissa := decreaseExponent_significand onePositive oneSmall oneEnough
  have otherMantissa := decreaseExponent_significand otherPositive otherSmall otherEnough
  have sum : oneSign.apply ((one.natAbs * 2 ^ power : Nat) : Int) +
      otherSign.apply ((other.natAbs * 2 ^ power : Nat) : Int) = (one + other) * 2 ^ power := by
    rw [apply_scaled, apply_scaled, ← oneSplit, ← otherSplit, Int.add_mul]
  have oneForm := ofInt_apply onePositive oneSmall oneSign
  have otherForm := ofInt_apply otherPositive otherSmall otherSign
  rw [← oneSplit] at oneForm
  rw [← otherSplit] at otherForm
  rw [oneForm, otherForm, ← ofInt_scaled sumSmall power, ← sum, ← oneMantissa, ← otherMantissa,
    add_finite _ _ exponent]

/-! ## Conversion -/

/-- A decimal number without places and of 24 bits is read as a whole number. -/
theorem ofScientific_eq
    {number : Nat}
    (least : 2 ^ 23 ≤ number)
    (most : number < 2 ^ 24) :
    ofScientific .binary32 number 0 = ofInt .binary32 number := by
  have positive : 0 < number := by omega
  have log := log2_mantissa least most
  have mantissa : significand number = number := by
    rw [significand, log, Nat.sub_self, pow_zero, Nat.mul_one]
  have exponent : (number.log2 : Int) - 23 = 0 := by omega
  have form : ofInt .binary32 number = .finite .positive number 0 positive := by
    exact (ofInt_apply positive most .positive).trans (finite_eq rfl mantissa exponent)
  have rounded := roundWithAccuracy_scaled least most .positive (by omega : (-149 : Int) ≤ 0) 24
  rw [← Nat.shiftLeft_eq, ← Nat.mul_one (number <<< 24)] at rounded
  have noUnderflow : ¬(0 : Int) < -((2 ^ Format.binary32.exponentBits : Int) + number.log2) := by
    change ¬(0 : Int) < -((2 ^ 8 : Int) + number.log2)
    omega
  rw [ofScientific, dif_neg (Nat.ne_of_gt positive), if_neg (by decide), if_neg noUnderflow,
    if_pos (Int.le_refl 0)]
  exact rounded.trans form.symm

/-- The zeroth power of ten, by which conversion multiplies a number of less than 24 bits. -/
def unit : Float32 :=
  .ofBits 0x3F800000

theorem mul_unit
    {number : Nat}
    (small : number < 2 ^ 24) :
    Float32.ofModel (.ofInt number) * unit = .ofModel (.ofInt number) := by
  have unpackedUnit : unit.toModel.unpack = .finite .positive (2 ^ 23) (-23) (by decide) := rfl
  change Float32.ofModel (.pack (UnpackedFloat.mul .binary32 (Float32.Model.ofInt number).unpack
    unit.toModel.unpack)) = _
  have same : (Float32.Model.ofInt number).unpack = ofInt .binary32 number :=
    unpack_pack_ofInt small
  rw [same, unpackedUnit]
  by_cases zero : number = 0
  · subst zero
    rfl
  · have positive : 0 < number := Nat.pos_of_ne_zero zero
    obtain ⟨least, most⟩ := significand_bounds positive small
    have rounded := roundWithAccuracy_scaled least most .positive
      (by omega : (-149 : Int) ≤ number.log2 - 23) 23
    have form := ofInt_apply positive small .positive
    have product : UnpackedFloat.mul .binary32 (ofInt .binary32 number)
        (.finite .positive (2 ^ 23) (-23) (by decide)) = ofInt .binary32 number := by
      change UnpackedFloat.mul .binary32 (ofInt .binary32 (Sign.positive.apply number)) _ =
        ofInt .binary32 (Sign.positive.apply number)
      rw [form]
      exact rounded
    rw [product]
    rfl

/-- A natural number is converted to its form. -/
theorem ofNat_eq
    {number : Nat}
    (small : number < 2 ^ 24) :
    Float32.ofNat number = .ofModel (.ofInt number) := by
  by_cases few : number < 2 ^ 23
  · have product : Float32.ofNat number = number.toUInt64.toFloat32 * unit :=
      dif_pos (⟨few, Nat.zero_le 10⟩ : number < 2 ^ 23 ∧ 0 ≤ 10)
    have word : number.toUInt64.toNat = number :=
      Nat.mod_eq_of_lt (few.trans (by decide))
    have converted : number.toUInt64.toFloat32 = .ofModel (.ofInt number) := by
      change Float32.ofModel (.ofInt number.toUInt64.toNat) = _
      rw [word]
    rw [product, converted, mul_unit small]
  · have scaled : Float32.ofNat number = .ofModel (.ofScientific number 0) :=
      dif_neg fun both : number < 2 ^ 23 ∧ 0 ≤ 10 => few both.1
    have form := ofScientific_eq (Nat.not_lt.mp few) small
    rw [scaled, Float32.Model.ofScientific, form]
    rfl

theorem ofInt_eq
    {number : Int}
    (small : number.natAbs < 2 ^ 24) :
    Float32.ofInt number = .ofModel (.ofInt number) := by
  cases number with
  | ofNat number => exact ofNat_eq small
  | negSucc number =>
    have positive : 0 < number + 1 := Nat.succ_pos number
    have converted : Float32.ofNat (number + 1) = .ofModel (.ofInt (number + 1 : Nat)) :=
      ofNat_eq small
    have same : (Float32.Model.ofInt (number + 1 : Nat)).unpack =
        ofInt .binary32 (number + 1 : Nat) :=
      unpack_pack_ofInt small
    have form := ofInt_apply positive small .positive
    have negativeForm := ofInt_apply positive small .negative
    have negated : (ofInt .binary32 (number + 1 : Nat)).neg =
        ofInt .binary32 (.negSucc number) := by
      change (ofInt .binary32 (Sign.positive.apply (number + 1 : Nat))).neg =
        ofInt .binary32 (Sign.negative.apply (number + 1 : Nat))
      rw [form, negativeForm]
      rfl
    change Float32.neg (Float32.ofNat (number + 1)) = _
    rw [converted]
    change Float32.ofModel (.pack (Float32.Model.ofInt (number + 1 : Nat)).unpack.neg) = _
    rw [same, negated]
    rfl

/-- Whole numbers are added exactly as long as they stay below `2 ^ 24`. -/
theorem ofInt_add
    {one other : Int}
    (oneSmall : one.natAbs < 2 ^ 24)
    (otherSmall : other.natAbs < 2 ^ 24)
    (sumSmall : (one + other).natAbs < 2 ^ 24) :
    Float32.ofInt one + Float32.ofInt other = Float32.ofInt (one + other) := by
  rw [ofInt_eq oneSmall, ofInt_eq otherSmall, ofInt_eq sumSmall]
  change Float32.ofModel (.pack (UnpackedFloat.add .binary32 (Float32.Model.ofInt one).unpack
    (Float32.Model.ofInt other).unpack)) = _
  rw [unpack_pack_ofInt oneSmall, unpack_pack_ofInt otherSmall,
    add_ofInt oneSmall otherSmall sumSmall]
  rfl

end SemanticIndex.SinglePrecision
