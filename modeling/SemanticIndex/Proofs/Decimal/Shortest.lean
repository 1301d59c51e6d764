import SemanticIndex.Decimal.Shortest
import SemanticIndex.Proofs.Decimal.Rounding

/-!
# Shortest decimals round back

The shortest decimal of a double lies in the interval of values that round to it, so the double is
the nearest one to it.  A grid of seventeen digits always has a point there: its points stand
closer to each other than the interval is wide.
-/

namespace SemanticIndex

/-- The rational number that a decimal stands for. -/
def Decimal.value (decimal : Decimal) : ℚ :=
  decimal.coefficient * 10 ^ decimal.power

theorem Decimal.stripZeros_value
    (fuel : Nat)
    (decimal : Decimal) :
    (decimal.stripZeros fuel).value = decimal.value := by
  induction fuel generalizing decimal with
  | zero => rfl
  | succ fuel induction =>
    unfold stripZeros
    split
    · rename_i divisible
      simp only [Bool.and_eq_true, beq_iff_eq] at divisible
      have tens : (decimal.coefficient : ℚ) = 10 * (decimal.coefficient / 10 : Nat) := by
        exact_mod_cast (Nat.mul_div_cancel' (Nat.dvd_of_mod_eq_zero divisible.2)).symm
      rw [induction, value, value, zpow_add_one₀ (by norm_num), tens]
      ring
    · rfl

namespace Binary64

variable {number : Binary64}

/-! ## Intervals -/

theorem interval_denominator_pos (number : Binary64) : 0 < number.interval.denominator := by
  simp only [interval, Nat.shiftLeft_eq]
  exact Nat.mul_pos (by norm_num) (Nat.pow_pos Nat.two_pos)

theorem interval_scale (number : Binary64) (count : ℚ) :
    4 * (count * (1 <<< number.exponent.toNat : Nat) / number.interval.denominator) =
      count * 2 ^ number.exponent := by
  rw [zpow_eq_div_pow]
  simp only [interval, Nat.shiftLeft_eq, one_mul, Nat.cast_mul, Nat.cast_pow, Nat.cast_ofNat]
  field_simp

theorem interval_low (nonzero : 0 < number.significand) :
    (4 * (number.interval.low / number.interval.denominator) : ℚ) =
      (4 * number.significand - number.reachBelow) * 2 ^ number.exponent := by
  have enough : number.reachBelow ≤ 4 * number.significand := by
    have := number.reachBelow_le
    omega
  rw [← interval_scale]
  have low : number.interval.low =
      (4 * number.significand - number.reachBelow) * (1 <<< number.exponent.toNat) := rfl
  rw [low, Nat.cast_mul, Nat.cast_sub enough, Nat.cast_mul, Nat.cast_ofNat]

theorem interval_center (number : Binary64) :
    (number.interval.center / number.interval.denominator : ℚ) =
      number.significand * 2 ^ number.exponent := by
  have scaled := interval_scale number (4 * number.significand)
  have center : number.interval.center =
      4 * number.significand * (1 <<< number.exponent.toNat) := rfl
  rw [center]
  push_cast
  linarith

theorem interval_high (number : Binary64) :
    (4 * (number.interval.high / number.interval.denominator) : ℚ) =
      (4 * number.significand + 2) * 2 ^ number.exponent := by
  rw [← interval_scale]
  have high : number.interval.high =
      (4 * number.significand + 2) * (1 <<< number.exponent.toNat) := rfl
  rw [high]
  push_cast
  rfl

theorem interval_holds_iff
    (nonzero : 0 < number.significand)
    (decimal : Decimal) :
    number.interval.holds decimal = true ↔ number.Attracts decimal.value := by
  have value := scaleRatio_value 10 decimal.coefficient 1 decimal.power
  have unit := scaleRatio_pos (show 0 < 10 by norm_num) one_pos decimal.coefficient decimal.power
  have low := interval_low nonzero
  have high := interval_high number
  have parts := interval_denominator_pos number
  have closed : number.interval.closed = (number.significand % 2 == 0) := rfl
  rw [Nat.cast_one, div_one, Nat.cast_ofNat] at value
  simp only [Interval.holds, closed, Decimal.value]
  generalize scaleRatio 10 decimal.coefficient 1 decimal.power = ratio at *
  generalize number.interval = interval at *
  have unit' : (0 : ℚ) < ratio.2 := by exact_mod_cast unit
  have parts' : (0 : ℚ) < interval.denominator := by exact_mod_cast parts
  have above (bound : Nat) : bound * ratio.2 ≤ ratio.1 * interval.denominator ↔
      (4 * (bound / interval.denominator) : ℚ) ≤
        4 * (decimal.coefficient * 10 ^ decimal.power) := by
    rw [← value, mul_le_mul_iff_right₀ four_pos, div_le_div_iff₀ parts' unit']
    exact_mod_cast Iff.rfl
  have below (bound : Nat) : ratio.1 * interval.denominator ≤ bound * ratio.2 ↔
      4 * (decimal.coefficient * 10 ^ decimal.power) ≤
        (4 * (bound / interval.denominator) : ℚ) := by
    rw [← value, mul_le_mul_iff_right₀ four_pos, div_le_div_iff₀ unit' parts']
    exact_mod_cast Iff.rfl
  rcases Decidable.em (number.significand % 2 = 0) with even | odd
  · simp only [even, beq_self_eq_true, if_true, Bool.and_eq_true, decide_eq_true_eq,
      above, below, low, high]
    constructor
    · rintro ⟨least, most⟩
      exact ⟨least, most, Or.inl even⟩
    · intro attracts
      exact ⟨attracts.low, attracts.high⟩
  · simp only [odd, beq_iff_eq, if_false, Bool.and_eq_true, decide_eq_true_eq, ← not_le,
      above, below, low, high]
    simp only [not_le]
    constructor
    · rintro ⟨least, most⟩
      exact ⟨least.le, most.le, Or.inr ⟨least, most⟩⟩
    · intro attracts
      exact attracts.inside.resolve_left odd

/-! ## Grids -/

theorem le_of_magnitude
    {interval : Interval}
    (positive : 0 < interval.center)
    (parts : 0 < interval.denominator) :
    (10 : ℚ) ^ (interval.magnitude - 1) ≤ interval.center / interval.denominator := by
  have parts' : (0 : ℚ) < interval.denominator := by exact_mod_cast parts
  have ⟨center, _⟩ := toDigits_bounds positive
  have ⟨_, denominator⟩ := toDigits_bounds parts
  unfold Interval.magnitude
  dsimp only
  generalize (Nat.toDigits 10 interval.center).length = long at *
  generalize (Nat.toDigits 10 interval.denominator).length = short at *
  have value := scaleRatio_value 10 1 1 ((long : Int) - short)
  have unit := scaleRatio_pos (show 0 < 10 by norm_num) one_pos 1 ((long : Int) - short)
  generalize scaleRatio 10 1 1 ((long : Int) - short) = bound at *
  have unit' : (0 : ℚ) < bound.2 := by exact_mod_cast unit
  split
  · rw [le_div_iff₀ parts']
    calc (10 : ℚ) ^ ((long : Int) - short - 1) * interval.denominator
        ≤ 10 ^ ((long : Int) - short - 1) * 10 ^ (short : Int) :=
        mul_le_mul_of_nonneg_left denominator.le (zpow_nonneg (by norm_num) _)
      _ = 10 ^ ((long : Int) - 1) := by
        rw [← zpow_add₀ (by norm_num)]
        congr 1
        ring
      _ ≤ interval.center := center
  · rename_i reached
    rw [Nat.cast_one, div_one, one_mul, Nat.cast_ofNat] at value
    rw [add_sub_cancel_right, ← value, div_le_div_iff₀ unit' parts']
    exact_mod_cast Nat.le_of_not_lt reached

theorem holds_of_onGrid
    {interval : Interval}
    {power : Int}
    {decimal : Decimal}
    (found : interval.onGrid power = some decimal) :
    interval.holds decimal = true := by
  unfold Interval.onGrid at found
  dsimp only at found
  split at found
  · split_ifs at found
    all_goals
      obtain rfl := Option.some.inj found
      assumption
  · obtain rfl := Option.some.inj found
    assumption
  · obtain rfl := Option.some.inj found
    assumption
  · cases found

theorem neighbours_of_onGrid
    {interval : Interval}
    {power : Int}
    (parts : 0 < interval.denominator)
    (missing : interval.onGrid power = none) :
    ∃ count : Nat, interval.holds ⟨count, power⟩ = false ∧
      interval.holds ⟨count + 1, power⟩ = false ∧
      (count * 10 ^ power : ℚ) ≤ interval.center / interval.denominator ∧
      (interval.center / interval.denominator : ℚ) < (count + 1) * 10 ^ power := by
  have value := scaleRatio_value 10 interval.center interval.denominator (-power)
  have unit := scaleRatio_pos (show 0 < 10 by norm_num) parts interval.center (-power)
  unfold Interval.onGrid at missing
  dsimp only at missing
  generalize scaleRatio 10 interval.center interval.denominator (-power) = ratio at *
  have place : (0 : ℚ) < 10 ^ power := zpow_pos (by norm_num) _
  have unit' : (0 : ℚ) < ratio.2 := by exact_mod_cast unit
  rw [Nat.cast_ofNat, zpow_neg, ← div_eq_mul_inv, eq_div_iff place.ne'] at value
  have ⟨below, above⟩ : interval.holds ⟨ratio.1 / ratio.2, power⟩ = false ∧
      interval.holds ⟨ratio.1 / ratio.2 + 1, power⟩ = false := by
    split at missing
    · split_ifs at missing
    · cases missing
    · cases missing
    · constructor <;> assumption
  refine ⟨ratio.1 / ratio.2, below, above, ?_, ?_⟩
  · rw [← value, mul_le_mul_iff_left₀ place]
    rw [le_div_iff₀ unit']
    exact_mod_cast Nat.div_mul_le_self ratio.1 ratio.2
  · rw [← value, mul_lt_mul_iff_left₀ place, div_lt_iff₀ unit']
    exact_mod_cast (Nat.div_lt_iff_lt_mul unit).mp (Nat.lt_succ_self (ratio.1 / ratio.2))

theorem reachBelow_pos (number : Binary64) : 0 < number.reachBelow := by
  unfold reachBelow
  split <;> omega

theorem attracts_of_le
    {value : ℚ}
    (low : (4 * number.significand - number.reachBelow) * 2 ^ number.exponent < 4 * value)
    (high : value ≤ number.significand * 2 ^ number.exponent) :
    number.Attracts value := by
  have power : (0 : ℚ) < 2 ^ number.exponent := zpow_pos two_pos _
  have strict : 4 * value < (4 * number.significand + 2) * 2 ^ number.exponent := by linarith
  exact ⟨low.le, strict.le, Or.inr ⟨low, strict⟩⟩

theorem attracts_of_ge
    {value : ℚ}
    (low : number.significand * 2 ^ number.exponent ≤ value)
    (high : 4 * value < (4 * number.significand + 2) * 2 ^ number.exponent) :
    number.Attracts value := by
  have power : (0 : ℚ) < 2 ^ number.exponent := zpow_pos two_pos _
  have reach : (1 : ℚ) ≤ number.reachBelow := by exact_mod_cast number.reachBelow_pos
  have strict : (4 * number.significand - number.reachBelow) * 2 ^ number.exponent < 4 * value := by
    nlinarith
  exact ⟨strict.le, high.le, Or.inr ⟨strict, high⟩⟩

theorem magnitude_le (nonzero : 0 < number.significand) :
    (10 : ℚ) ^ (number.interval.magnitude - 17) * 10 ^ 16 ≤
      number.significand * 2 ^ number.exponent := by
  have parts := interval_denominator_pos number
  have center : 0 < number.interval.center := by
    simp only [interval, Nat.shiftLeft_eq]
    positivity
  have magnitude := le_of_magnitude center parts
  rw [interval_center] at magnitude
  refine le_of_eq_of_le ?_ magnitude
  rw [← zpow_natCast, ← zpow_add₀ (by norm_num)]
  congr 1
  push_cast
  ring

/-- The points of a grid of seventeen digits stand closer than the interval is wide. -/
theorem grid_lt_interval
    (canonical : number.Canonical)
    (nonzero : 0 < number.significand) :
    4 * (10 : ℚ) ^ (number.interval.magnitude - 17) <
      (number.reachBelow + 2) * 2 ^ number.exponent := by
  have magnitude := magnitude_le nonzero
  have power : (0 : ℚ) < 2 ^ number.exponent := zpow_pos two_pos _
  generalize (10 : ℚ) ^ (number.interval.magnitude - 17) = gap at *
  generalize (2 : ℚ) ^ number.exponent = unit at *
  rcases Decidable.em (number.significand = hiddenBit) with least | other
  · -- The least significand reaches less far below, but its magnitude is small too.
    have reach : (1 : ℚ) ≤ number.reachBelow := by exact_mod_cast number.reachBelow_pos
    rw [least, hiddenBit] at magnitude
    norm_num at magnitude
    nlinarith
  · have reach : number.reachBelow = 2 := by simp [reachBelow, other]
    have small : number.significand ≤ 9007199254740992 := canonical.small.le
    have room : (number.significand : ℚ) * unit ≤ 9007199254740992 * unit :=
      mul_le_mul_of_nonneg_right (by exact_mod_cast small) power.le
    rw [reach]
    norm_num at magnitude ⊢
    linarith

/-- Seventeen digits are enough for every double. -/
theorem exists_onGrid
    (canonical : number.Canonical)
    (nonzero : 0 < number.significand) :
    ∃ decimal, number.interval.onGrid (number.interval.magnitude - 17) = some decimal := by
  rw [← Option.isSome_iff_exists, ← Option.ne_none_iff_isSome]
  intro missing
  obtain ⟨count, below, above, low, high⟩ :=
    neighbours_of_onGrid (interval_denominator_pos number) missing
  rw [← Bool.not_eq_true, interval_holds_iff nonzero, Decimal.value] at below above
  rw [interval_center] at low high
  have finer := grid_lt_interval canonical nonzero
  generalize (10 : ℚ) ^ (number.interval.magnitude - 17) = gap at *
  have lower : 4 * (count * gap) ≤
      (4 * number.significand - number.reachBelow) * 2 ^ number.exponent := by
    by_contra inside
    exact below (attracts_of_le (not_le.mp inside) low)
  have upper : (4 * number.significand + 2) * 2 ^ number.exponent ≤ 4 * ((count + 1) * gap) := by
    by_contra inside
    rw [Nat.cast_succ] at above
    exact above (attracts_of_ge high.le (not_le.mp inside))
  linarith

/-- The shortest decimal of a double lies in the interval of the values that round to it. -/
theorem shortest_attracts
    (canonical : number.Canonical)
    (nonzero : 0 < number.significand) :
    number.Attracts number.shortest.value := by
  obtain ⟨last, reached⟩ := exists_onGrid canonical nonzero
  have ⟨decimal, found⟩ : ∃ decimal, ((List.range 17).findSome? fun extra =>
      number.interval.onGrid (number.interval.magnitude - (extra + 1 : Nat))) = some decimal := by
    rw [← Option.isSome_iff_exists, List.findSome?_isSome_iff]
    refine ⟨16, by simp, ?_⟩
    show (number.interval.onGrid (number.interval.magnitude - 17)).isSome = true
    rw [reached]
    rfl
  obtain ⟨extra, _, onGrid⟩ := List.exists_of_findSome?_eq_some found
  have zero : (number.significand == 0) = false := by simpa using nonzero.ne'
  rw [shortest, zero]
  simp only [Bool.false_eq_true, if_false, found, Option.getD_some, Decimal.stripZeros_value]
  exact (interval_holds_iff nonzero decimal).mp (holds_of_onGrid onGrid)

theorem significand_pos_or_eq_zero (canonical : number.Canonical) :
    0 < number.significand ∨ number = zero number.negative := by
  rcases Nat.eq_zero_or_pos number.significand with vanishes | positive
  · right
    have least : number.exponent = leastExponent := by
      apply canonical.normal.resolve_right
      rw [vanishes]
      decide
    cases number
    simp_all [zero]
  · exact Or.inl positive

/-- The double that is nearest to the shortest decimal of a double is that double. -/
theorem ofDecimal_shortest (canonical : number.Canonical) :
    ofDecimal number.negative number.shortest.coefficient number.shortest.power = some number := by
  rcases significand_pos_or_eq_zero canonical with nonzero | vanishes
  · exact ofDecimal_of_attracts canonical nonzero (shortest_attracts canonical nonzero)
  · rw [vanishes]
    rfl

end Binary64

end SemanticIndex
