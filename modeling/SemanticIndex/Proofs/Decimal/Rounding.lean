import Mathlib.Algebra.Order.Field.Power
import Mathlib.Data.Rat.Cast.Order
import Mathlib.Tactic.FieldSimp
import Mathlib.Tactic.Linarith
import Mathlib.Tactic.NormNum
import Mathlib.Tactic.Ring
import SemanticIndex.Decimal.Binary64

/-!
# Rounding to doubles

Rounding is computed on natural numbers; here it is compared with the rational numbers that those
stand for.  A double that rounding gives is canonical, and a canonical double is what every number
of its interval rounds to.  The interval reaches half a unit to either side, and only a quarter
downwards from a power of two, where the doubles below stand closer.
-/

namespace SemanticIndex

namespace Binary64

/-! ## Ratios -/

theorem zpow_eq_div_pow (base : ℚ) (power : Int) :
    base ^ power = base ^ power.toNat / base ^ (-power).toNat := by
  rcases Int.eq_nat_or_neg power with ⟨count, rfl | rfl⟩
  · simp
  · simp

theorem scaleRatio_value
    (base numerator denominator : Nat)
    (power : Int) :
    ((scaleRatio base numerator denominator power).1 : ℚ) /
        (scaleRatio base numerator denominator power).2 =
      (numerator / denominator : ℚ) * (base : ℚ) ^ power := by
  rw [zpow_eq_div_pow]
  simp only [scaleRatio, Nat.pow_eq, Nat.cast_mul, Nat.cast_pow]
  exact mul_div_mul_comm ..

theorem scaleRatio_pos
    {base denominator : Nat}
    (positive : 0 < base)
    (nonzero : 0 < denominator)
    (numerator : Nat)
    (power : Int) :
    0 < (scaleRatio base numerator denominator power).2 :=
  Nat.mul_pos nonzero (Nat.pow_pos positive)

/-- Rounding a ratio gives the integer within half a unit, and the even one of two. -/
theorem roundQuotient_eq
    {numerator denominator rounded : Nat}
    (positive : 0 < denominator)
    (lower : 2 * rounded * denominator ≤ 2 * numerator + denominator)
    (upper : 2 * numerator ≤ 2 * rounded * denominator + denominator)
    (tie : rounded % 2 = 0 ∨
      2 * rounded * denominator < 2 * numerator + denominator ∧
        2 * numerator < 2 * rounded * denominator + denominator) :
    roundQuotient numerator denominator = rounded := by
  have split := Nat.div_add_mod numerator denominator
  have small := Nat.mod_lt numerator positive
  unfold roundQuotient
  generalize numerator / denominator = quotient at *
  generalize numerator % denominator = remainder at *
  subst split
  have notAbove : quotient ≤ rounded := by
    by_contra above
    nlinarith
  have near : rounded ≤ quotient + 1 := by
    by_contra below
    nlinarith
  rcases Nat.lt_or_eq_of_le notAbove with before | rfl
  · obtain rfl : rounded = quotient + 1 := by omega
    have half : denominator ≤ 2 * remainder := by linarith
    rcases Nat.lt_or_eq_of_le half with more | exact
    · simp [more, Nat.not_lt.mpr half]
    · have odd : quotient % 2 = 1 := by
        rcases tie with even | strict
        · omega
        · exfalso
          linarith
      simp [← exact, odd]
  · have half : 2 * remainder ≤ denominator := by linarith
    rcases Nat.lt_or_eq_of_le half with less | exact
    · simp [less]
    · have even : quotient % 2 = 0 := by
        rcases tie with even | strict
        · exact even
        · exfalso
          linarith
      simp [exact, even]

theorem roundQuotient_le
    {numerator denominator bound : Nat}
    (positive : 0 < denominator)
    (within : numerator ≤ bound * denominator) :
    roundQuotient numerator denominator ≤ bound := by
  have split := Nat.div_add_mod numerator denominator
  have atMost : numerator / denominator ≤ bound :=
    Nat.div_le_of_le_mul (Nat.mul_comm bound denominator ▸ within)
  have room : 0 < numerator % denominator → numerator / denominator < bound := by
    intro more
    by_contra full
    nlinarith
  unfold roundQuotient
  grind

theorem le_roundQuotient
    {numerator denominator bound : Nat}
    (positive : 0 < denominator)
    (within : bound * denominator ≤ numerator) :
    bound ≤ roundQuotient numerator denominator := by
  have reached : bound ≤ numerator / denominator := (Nat.le_div_iff_mul_le positive).mpr within
  unfold roundQuotient
  grind

/-! ## Units -/

/-- The exponent of the unit to which a positive ratio is rounded. -/
def unitExponent (numerator denominator : Nat) : Int :=
  let low := max ((Nat.log2 numerator : Int) - Nat.log2 denominator - 53) leastExponent
  let (scaled, unit) := scaleRatio 2 numerator denominator (-low)
  if 2 * hiddenBit ≤ scaled / unit then low + 1 else low

theorem ofRatio_of_pos
    (negative : Bool)
    {numerator : Nat}
    (positive : 0 < numerator)
    (denominator : Nat) :
    ofRatio negative numerator denominator =
      let exponent := unitExponent numerator denominator
      let scaled := scaleRatio 2 numerator denominator (-exponent)
      let rounded := roundQuotient scaled.1 scaled.2
      if rounded = 2 * hiddenBit then
        if greatestExponent < exponent + 1 then none else some ⟨negative, hiddenBit, exponent + 1⟩
      else if greatestExponent < exponent then none
      else some ⟨negative, rounded, exponent⟩ := by
  have nonzero : (numerator == 0) = false := by
    simpa using positive.ne'
  simp only [ofRatio, unitExponent, nonzero, Bool.false_eq_true, if_false, beq_iff_eq]
  split_ifs <;> simp_all

theorem scaleRatio_scaled
    (numerator : Nat)
    {denominator : Nat}
    (positive : 0 < denominator)
    (exponent : Int) :
    ((scaleRatio 2 numerator denominator (-exponent)).1 : ℚ) * 2 ^ exponent =
      (numerator / denominator : ℚ) * (scaleRatio 2 numerator denominator (-exponent)).2 := by
  have nonzero : ((scaleRatio 2 numerator denominator (-exponent)).2 : ℚ) ≠ 0 := by
    exact_mod_cast (scaleRatio_pos Nat.two_pos positive numerator (-exponent)).ne'
  have power : (2 : ℚ) ^ exponent ≠ 0 := zpow_ne_zero _ two_ne_zero
  have value := scaleRatio_value 2 numerator denominator (-exponent)
  rw [Nat.cast_ofNat, zpow_neg, div_eq_iff nonzero] at value
  rw [value, mul_right_comm, inv_mul_cancel_right₀ power]

theorem le_scaleRatio_iff
    {numerator denominator : Nat}
    (positive : 0 < denominator)
    (bound : Nat)
    (exponent : Int) :
    bound * (scaleRatio 2 numerator denominator (-exponent)).2 ≤
        (scaleRatio 2 numerator denominator (-exponent)).1 ↔
      (bound : ℚ) * 2 ^ exponent ≤ numerator / denominator := by
  have scaled := scaleRatio_scaled numerator positive exponent
  have power : (0 : ℚ) < 2 ^ exponent := zpow_pos two_pos _
  have unit := scaleRatio_pos Nat.two_pos positive numerator (-exponent)
  generalize scaleRatio 2 numerator denominator (-exponent) = ratio at *
  have unit' : (0 : ℚ) < ratio.2 := by exact_mod_cast unit
  rw [← mul_le_mul_iff_left₀ unit', ← scaled, mul_right_comm, mul_le_mul_iff_left₀ power]
  exact_mod_cast Iff.rfl

/-- An exponent counts units of which a value holds fewer than `2 ^ 53`, and as many as it can. -/
structure Spans (exponent : Int) (value : ℚ) : Prop where
  least : leastExponent ≤ exponent
  above : value < 2 * hiddenBit * 2 ^ exponent
  below : exponent = leastExponent ∨ hiddenBit * 2 ^ exponent ≤ value

theorem Spans.le
    {exponent other : Int}
    {value : ℚ}
    (spans : Spans exponent value)
    (others : Spans other value) :
    exponent ≤ other := by
  by_contra greater
  have enough : (hiddenBit : ℚ) * 2 ^ exponent ≤ value := by
    apply spans.below.resolve_left
    have := others.least
    omega
  have step : (2 : ℚ) ^ (other + 1) ≤ 2 ^ exponent :=
    zpow_le_zpow_right₀ one_le_two (by omega)
  rw [zpow_add_one₀ two_ne_zero] at step
  have above := others.above
  simp only [hiddenBit] at enough above
  push_cast at enough above
  linarith

theorem Spans.unique
    {exponent other : Int}
    {value : ℚ}
    (spans : Spans exponent value)
    (others : Spans other value) :
    exponent = other :=
  Int.le_antisymm (spans.le others) (others.le spans)

theorem log2_bounds
    {number : Nat}
    (positive : 0 < number) :
    (2 : ℚ) ^ (Nat.log2 number : Int) ≤ number ∧
      (number : ℚ) < 2 ^ ((Nat.log2 number : Int) + 1) := by
  constructor
  · rw [zpow_natCast]
    exact_mod_cast Nat.log2_self_le positive.ne'
  · have below := Nat.lt_log2_self (n := number)
    rw [← Nat.cast_succ, zpow_natCast]
    exact_mod_cast below

theorem hiddenBit_mul_zpow (exponent : Int) :
    (hiddenBit : ℚ) * 2 ^ exponent = 2 ^ (exponent + 52) := by
  rw [zpow_add₀ two_ne_zero, mul_comm]
  norm_num [hiddenBit]

/-- A ratio lies about where the magnitudes of its parts have it. -/
theorem log2_ratio_bounds
    {numerator denominator : Nat}
    (positive : 0 < numerator)
    (nonzero : 0 < denominator) :
    (2 : ℚ) ^ ((Nat.log2 numerator : Int) - Nat.log2 denominator - 1) ≤ numerator / denominator ∧
      (numerator / denominator : ℚ) <
        2 ^ ((Nat.log2 numerator : Int) - Nat.log2 denominator + 1) := by
  have above : (0 : ℚ) < denominator := by exact_mod_cast nonzero
  have ⟨numeratorLow, numeratorHigh⟩ := log2_bounds positive
  have ⟨denominatorLow, denominatorHigh⟩ := log2_bounds nonzero
  generalize (Nat.log2 numerator : Int) = top at *
  generalize (Nat.log2 denominator : Int) = bottom at *
  constructor
  · rw [le_div_iff₀ above]
    calc (2 : ℚ) ^ (top - bottom - 1) * denominator
        ≤ 2 ^ (top - bottom - 1) * 2 ^ (bottom + 1) :=
        mul_le_mul_of_nonneg_left denominatorHigh.le (zpow_nonneg zero_le_two _)
      _ = 2 ^ top := by
        rw [← zpow_add₀ two_ne_zero]
        congr 1
        ring
      _ ≤ numerator := numeratorLow
  · rw [div_lt_iff₀ above]
    calc (numerator : ℚ)
        < 2 ^ (top + 1) := numeratorHigh
      _ = 2 ^ (top - bottom + 1) * 2 ^ bottom := by
        rw [← zpow_add₀ two_ne_zero]
        congr 1
        ring
      _ ≤ 2 ^ (top - bottom + 1) * denominator :=
        mul_le_mul_of_nonneg_left denominatorLow (zpow_nonneg zero_le_two _)

theorem unitExponent_spans
    {numerator denominator : Nat}
    (positive : 0 < numerator)
    (nonzero : 0 < denominator) :
    Spans (unitExponent numerator denominator) (numerator / denominator) := by
  have ⟨lower, upper⟩ := log2_ratio_bounds positive nonzero
  unfold unitExponent
  generalize (Nat.log2 numerator : Int) - Nat.log2 denominator = estimate at *
  generalize low_eq : max (estimate - 53) leastExponent = low
  have reach : (numerator / denominator : ℚ) < 4 * (hiddenBit * 2 ^ low) := by
    calc (numerator / denominator : ℚ)
        < 2 ^ (estimate + 1) := upper
      _ ≤ 2 ^ (low + 52 + 2) := zpow_le_zpow_right₀ one_le_two (by omega)
      _ = 4 * (hiddenBit * 2 ^ low) := by
        rw [hiddenBit_mul_zpow, zpow_add₀ two_ne_zero (low + 52)]
        norm_num [mul_comm]
  have start : low = leastExponent ∨ hiddenBit * 2 ^ low ≤ (numerator / denominator : ℚ) := by
    rcases Int.le_total (estimate - 53) leastExponent with small | large
    · left
      omega
    · right
      rw [hiddenBit_mul_zpow]
      exact (zpow_le_zpow_right₀ one_le_two (by omega)).trans lower
  simp only [Nat.le_div_iff_mul_le (scaleRatio_pos Nat.two_pos nonzero numerator (-low)),
    le_scaleRatio_iff nonzero]
  split
  · rename_i more
    push_cast at more
    have next : (2 : ℚ) ^ (low + 1) = 2 ^ low * 2 := zpow_add_one₀ two_ne_zero low
    constructor
    · omega
    · rw [next]
      linarith
    · right
      rw [next]
      linarith
  · rename_i fewer
    push_cast at fewer
    exact ⟨by omega, not_le.mp fewer, start⟩

/-- A value lies within half a unit of a count of units, and closer when the count is odd. -/
structure Near (count : Nat) (exponent : Int) (value : ℚ) : Prop where
  low : (2 * count - 1) * 2 ^ exponent ≤ 2 * value
  high : 2 * value ≤ (2 * count + 1) * 2 ^ exponent
  tie : count % 2 = 0 ∨
    (2 * count - 1) * 2 ^ exponent < 2 * value ∧ 2 * value < (2 * count + 1) * 2 ^ exponent

theorem roundQuotient_of_near
    {numerator denominator count : Nat}
    (positive : 0 < denominator)
    {exponent : Int}
    (near : Near count exponent (numerator / denominator)) :
    roundQuotient (scaleRatio 2 numerator denominator (-exponent)).1
      (scaleRatio 2 numerator denominator (-exponent)).2 = count := by
  have ⟨low, high, tie⟩ := near
  have unit := scaleRatio_pos Nat.two_pos positive numerator (-exponent)
  have scaled := scaleRatio_scaled numerator positive exponent
  have power : (0 : ℚ) < 2 ^ exponent := zpow_pos two_pos _
  generalize scaleRatio 2 numerator denominator (-exponent) = ratio at *
  generalize (numerator / denominator : ℚ) = value at *
  generalize (2 : ℚ) ^ exponent = place at *
  have unit' : (0 : ℚ) < ratio.2 := by exact_mod_cast unit
  have equal : 2 * value * ratio.2 = 2 * ratio.1 * place := by linarith
  have above (bound : ℚ) : bound * place ≤ 2 * value ↔ bound * ratio.2 ≤ 2 * ratio.1 := by
    rw [← mul_le_mul_iff_left₀ unit', equal, mul_right_comm, mul_le_mul_iff_left₀ power]
  have below (bound : ℚ) : 2 * value ≤ bound * place ↔ 2 * ratio.1 ≤ bound * ratio.2 := by
    rw [← mul_le_mul_iff_left₀ unit', equal, mul_right_comm bound, mul_le_mul_iff_left₀ power]
  simp only [← not_le, above, below] at low high tie
  simp only [not_le, sub_mul, add_mul, one_mul, sub_le_iff_le_add, sub_lt_iff_lt_add] at low high tie
  exact roundQuotient_eq unit (by exact_mod_cast low) (by exact_mod_cast high)
    (by exact_mod_cast tie)

/-! ## Intervals -/

/-- The sizes of significand and exponent that every finite double has. -/
structure Canonical (number : Binary64) : Prop where
  small : number.significand < 2 * hiddenBit
  least : leastExponent ≤ number.exponent
  greatest : number.exponent ≤ greatestExponent
  normal : number.exponent = leastExponent ∨ hiddenBit ≤ number.significand

theorem canonical_zero (negative : Bool) : (zero negative).Canonical where
  small := by simp [zero, hiddenBit]
  least := le_rfl
  greatest := by simp [zero, leastExponent, greatestExponent]
  normal := Or.inl rfl

/-- How many quarters of a unit the interval of a double reaches downwards. -/
def reachBelow (number : Binary64) : Nat :=
  if number.significand == hiddenBit && number.exponent != leastExponent then 1 else 2

/-- A value lies in the interval around a double, within it when the significand is odd. -/
structure Attracts (number : Binary64) (value : ℚ) : Prop where
  low : (4 * number.significand - number.reachBelow) * 2 ^ number.exponent ≤ 4 * value
  high : 4 * value ≤ (4 * number.significand + 2) * 2 ^ number.exponent
  inside : number.significand % 2 = 0 ∨
    (4 * number.significand - number.reachBelow) * 2 ^ number.exponent < 4 * value ∧
      4 * value < (4 * number.significand + 2) * 2 ^ number.exponent

theorem reachBelow_le (number : Binary64) : number.reachBelow ≤ 2 := by
  unfold reachBelow
  split <;> omega

variable {number : Binary64} {value : ℚ}

theorem Attracts.pos
    (attracts : number.Attracts value)
    (nonzero : 0 < number.significand) :
    0 < value := by
  have power : (0 : ℚ) < 2 ^ number.exponent := zpow_pos two_pos _
  have reach : (number.reachBelow : ℚ) ≤ 2 := by exact_mod_cast number.reachBelow_le
  have significand : (1 : ℚ) ≤ number.significand := by exact_mod_cast nonzero
  have := attracts.low
  nlinarith

theorem Attracts.near (attracts : number.Attracts value) :
    Near number.significand number.exponent value := by
  have power : (0 : ℚ) < 2 ^ number.exponent := zpow_pos two_pos _
  have reach : (number.reachBelow : ℚ) ≤ 2 := by exact_mod_cast number.reachBelow_le
  constructor
  · nlinarith [attracts.low]
  · linarith [attracts.high]
  · apply attracts.inside.imp_right
    rintro ⟨low, high⟩
    constructor
    · nlinarith
    · linarith

/-- Below a power of two the units of the interval are half as large. -/
theorem Attracts.spans
    (attracts : number.Attracts value)
    (canonical : number.Canonical) :
    Spans number.exponent value ∨
      number.significand = hiddenBit ∧ Spans (number.exponent - 1) value ∧
        Near (2 * hiddenBit) (number.exponent - 1) value := by
  have low := attracts.low
  have high := attracts.high
  have power : (0 : ℚ) < 2 ^ number.exponent := zpow_pos two_pos _
  by_cases enough : number.exponent = leastExponent ∨ hiddenBit * 2 ^ number.exponent ≤ value
  · left
    refine ⟨canonical.least, ?_, enough⟩
    have small : (number.significand : ℚ) + 1 ≤ 2 * hiddenBit := by
      exact_mod_cast canonical.small
    nlinarith
  · right
    obtain ⟨notLeast, short⟩ := not_or.mp enough
    rw [not_le] at short
    have normal := canonical.normal.resolve_left notLeast
    have half : (2 : ℚ) ^ number.exponent = 2 ^ (number.exponent - 1) * 2 := by
      rw [← zpow_add_one₀ two_ne_zero, sub_add_cancel]
    rcases Nat.lt_or_eq_of_le normal with more | exact
    · exfalso
      have reach : (number.reachBelow : ℚ) ≤ 2 := by exact_mod_cast number.reachBelow_le
      have more' : (hiddenBit : ℚ) + 1 ≤ number.significand := by exact_mod_cast more
      nlinarith
    · have reach : number.reachBelow = 1 := by
        simp [reachBelow, ← exact, notLeast]
      rw [reach, ← exact, half, Nat.cast_one] at low
      rw [half] at short power
      have least := canonical.least
      have large : (1 : ℚ) ≤ hiddenBit := by norm_num [hiddenBit]
      refine ⟨exact.symm, ⟨by omega, ?_, Or.inr ?_⟩, ⟨?_, ?_, Or.inl ?_⟩⟩
      · linarith
      · nlinarith
      · push_cast
        linarith
      · push_cast
        linarith
      · exact Nat.mul_mod_right 2 hiddenBit

theorem ofRatio_of_attracts
    {numerator denominator : Nat}
    (canonical : number.Canonical)
    (nonzero : 0 < number.significand)
    (positive : 0 < denominator)
    (attracts : number.Attracts (numerator / denominator)) :
    ofRatio number.negative numerator denominator = some number := by
  have above : 0 < numerator := by
    rcases Nat.eq_zero_or_pos numerator with rfl | above
    · simpa using attracts.pos nonzero
    · exact above
  have spans := unitExponent_spans above positive
  rw [ofRatio_of_pos number.negative above denominator]
  rcases attracts.spans canonical with own | ⟨power, finer, near⟩
  · simp only [spans.unique own, roundQuotient_of_near positive attracts.near]
    rw [if_neg canonical.small.ne, if_neg (Int.not_lt.mpr canonical.greatest)]
  · simp only [spans.unique finer, roundQuotient_of_near positive near, sub_add_cancel, if_true]
    rw [if_neg (Int.not_lt.mpr canonical.greatest), ← power]

theorem canonical_of_ofRatio
    {negative : Bool}
    {numerator denominator : Nat}
    (positive : 0 < denominator)
    (rounds : ofRatio negative numerator denominator = some number) :
    number.Canonical := by
  rcases Nat.eq_zero_or_pos numerator with rfl | above
  · obtain rfl : zero negative = number := by simpa [ofRatio] using rounds
    exact canonical_zero negative
  have spans := unitExponent_spans above positive
  have unit := scaleRatio_pos Nat.two_pos positive numerator
    (-unitExponent numerator denominator)
  rw [ofRatio_of_pos negative above denominator] at rounds
  generalize unitExponent numerator denominator = exponent at *
  have atMost : roundQuotient (scaleRatio 2 numerator denominator (-exponent)).1
      (scaleRatio 2 numerator denominator (-exponent)).2 ≤ 2 * hiddenBit := by
    apply roundQuotient_le unit
    apply Nat.le_of_not_le
    rw [le_scaleRatio_iff positive]
    push_cast
    exact not_le.mpr spans.above
  have atLeast : exponent = leastExponent ∨
      hiddenBit ≤ roundQuotient (scaleRatio 2 numerator denominator (-exponent)).1
        (scaleRatio 2 numerator denominator (-exponent)).2 := by
    apply spans.below.imp_right
    intro enough
    exact le_roundQuotient unit ((le_scaleRatio_iff positive hiddenBit exponent).mpr enough)
  dsimp only at rounds
  generalize roundQuotient _ _ = rounded at *
  split_ifs at rounds with full outside outside
  · obtain rfl := Option.some.inj rounds
    exact ⟨by simp [hiddenBit], by have := spans.least; simp; omega, by simp; omega, Or.inr le_rfl⟩
  · obtain rfl := Option.some.inj rounds
    exact ⟨by simp; omega, spans.least, by simp; omega, atLeast⟩

/-! ## Decimals -/

theorem toDigits_bounds
    {number : Nat}
    (positive : 0 < number) :
    (10 : ℚ) ^ ((Nat.toDigits 10 number).length - 1 : Int) ≤ number ∧
      (number : ℚ) < 10 ^ ((Nat.toDigits 10 number).length : Int) := by
  obtain ⟨count, length⟩ : ∃ count, (Nat.toDigits 10 number).length = count + 1 :=
    Nat.exists_eq_add_one.mpr (List.length_pos_iff.mpr Nat.toDigits_ne_nil)
  have below : number < 10 ^ (count + 1) :=
    (Nat.length_toDigits_le_iff (by norm_num) count.succ_pos).mp length.le
  have above : 10 ^ count ≤ number := by
    by_contra less
    rcases Nat.eq_zero_or_pos count with rfl | more
    · omega
    · have := (Nat.length_toDigits_le_iff (by norm_num) more).mpr (not_le.mp less)
      omega
  rw [length, Nat.cast_succ, add_sub_cancel_right, ← Nat.cast_succ, zpow_natCast, zpow_natCast]
  exact ⟨by exact_mod_cast above, by exact_mod_cast below⟩

theorem Attracts.bounds
    (attracts : number.Attracts value)
    (canonical : number.Canonical)
    (nonzero : 0 < number.significand) :
    (10 : ℚ) ^ (-331 : Int) ≤ value ∧ value < 10 ^ (310 : Int) := by
  constructor
  · have finest : (2 : ℚ) ^ leastExponent ≤ 2 ^ number.exponent :=
      zpow_le_zpow_right₀ one_le_two canonical.least
    have significand : (1 : ℚ) ≤ number.significand := by exact_mod_cast nonzero
    have tiny : (10 : ℚ) ^ (-331 : Int) ≤ 2 ^ leastExponent / 2 := by
      have compared : (2 : ℚ) ^ 1075 ≤ 10 ^ 331 := by
        exact_mod_cast show 2 ^ 1075 ≤ 10 ^ 331 by decide +kernel
      calc (10 : ℚ) ^ (-331 : Int)
          = (10 ^ 331)⁻¹ := zpow_neg_coe_of_pos 10 (by norm_num)
        _ ≤ (2 ^ 1075)⁻¹ := inv_anti₀ (pow_pos two_pos _) compared
        _ = (2 ^ 1074)⁻¹ / 2 := by rw [pow_succ, mul_inv, div_eq_mul_inv]
        _ = 2 ^ leastExponent / 2 := by
          rw [← zpow_neg_coe_of_pos 2 (by norm_num)]
          rfl
    have low := attracts.near.low
    have power : (0 : ℚ) < 2 ^ number.exponent := zpow_pos two_pos _
    nlinarith
  · have coarsest : (2 : ℚ) ^ number.exponent ≤ 2 ^ greatestExponent :=
      zpow_le_zpow_right₀ one_le_two canonical.greatest
    have small : (number.significand : ℚ) + 1 ≤ 2 * hiddenBit := by
      exact_mod_cast canonical.small
    have huge : 2 * (hiddenBit : ℚ) * 2 ^ greatestExponent < 10 ^ (310 : Int) := by
      have compared : (2 : ℚ) ^ 1024 < 10 ^ 310 := by
        exact_mod_cast show 2 ^ 1024 < 10 ^ 310 by decide +kernel
      calc 2 * (hiddenBit : ℚ) * 2 ^ greatestExponent
          = 2 ^ (greatestExponent + 52 + 1) := by
            rw [mul_assoc, hiddenBit_mul_zpow, zpow_add_one₀ two_ne_zero _, mul_comm]
        _ = 2 ^ 1024 := zpow_natCast 2 1024
        _ < 10 ^ 310 := compared
        _ = 10 ^ (310 : Int) := (zpow_natCast 10 310).symm
    have high := attracts.near.high
    have power : (0 : ℚ) < 2 ^ number.exponent := zpow_pos two_pos _
    nlinarith

/-- Every decimal in the interval of a double reads as that double. -/
theorem ofDecimal_of_attracts
    {coefficient : Nat}
    {power : Int}
    (canonical : number.Canonical)
    (nonzero : 0 < number.significand)
    (attracts : number.Attracts (coefficient * 10 ^ power)) :
    ofDecimal number.negative coefficient power = some number := by
  have positive : 0 < coefficient := by
    rcases Nat.eq_zero_or_pos coefficient with rfl | positive
    · simpa using attracts.pos nonzero
    · exact positive
  have ⟨lower, upper⟩ := attracts.bounds canonical nonzero
  have ⟨least, most⟩ := toDigits_bounds positive
  have zero : (coefficient == 0) = false := by simpa using positive.ne'
  simp only [ofDecimal, zero, if_false, Bool.false_eq_true]
  have place : (0 : ℚ) < 10 ^ power := zpow_pos (by norm_num) _
  have base : (1 : ℚ) < 10 := by norm_num
  generalize (Nat.toDigits 10 coefficient).length = length at *
  have notLarge : ¬310 < (length + power : Int) := by
    intro large
    have reached := (mul_le_mul_of_nonneg_right least place.le).trans_lt upper
    rw [← zpow_add₀ (by norm_num), zpow_lt_zpow_iff_right₀ base] at reached
    omega
  have notSmall : ¬(length + power : Int) < -330 := by
    intro small
    have reached := lower.trans_lt (mul_lt_mul_of_pos_right most place)
    rw [← zpow_add₀ (by norm_num), zpow_lt_zpow_iff_right₀ base] at reached
    omega
  have value := scaleRatio_value 10 coefficient 1 power
  rw [Nat.cast_one, div_one, Nat.cast_ofNat] at value
  have unit := scaleRatio_pos (show 0 < 10 by norm_num) one_pos coefficient power
  rw [if_neg notLarge, if_neg notSmall]
  apply ofRatio_of_attracts canonical nonzero unit
  rwa [value]

end Binary64

end SemanticIndex
