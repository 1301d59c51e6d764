import SemanticIndex.Proofs.Decimal.Rounding

/-!
# Products and quotients of doubles

A product or a quotient is rounded from the exact ratio.  It is canonical, and it is the double
in whose interval the exact one lies.  The powers of ten up to `10 ^ 22` are doubles themselves, so
scaling by one of them rounds only once.
-/

namespace SemanticIndex.Binary64

variable {one other number : Binary64}

/-- The rational number that a double stands for without its sign. -/
def magnitude (number : Binary64) : ℚ :=
  number.significand * 2 ^ number.exponent

theorem ratio_value (number : Binary64) :
    (number.ratio.1 / number.ratio.2 : ℚ) = number.magnitude := by
  have value := scaleRatio_value 2 number.significand 1 number.exponent
  rwa [Nat.cast_one, div_one, Nat.cast_ofNat] at value

theorem ratio_pos (number : Binary64) : 0 < number.ratio.2 :=
  scaleRatio_pos Nat.two_pos one_pos _ _

theorem ratio_pos_of_significand (nonzero : 0 < number.significand) : 0 < number.ratio.1 :=
  Nat.mul_pos nonzero (Nat.pow_pos Nat.two_pos)

/-! ## Canonical results -/

theorem canonical_of_times? (product : one.times? other = some number) : number.Canonical :=
  canonical_of_ofRatio (Nat.mul_pos one.ratio_pos other.ratio_pos) product

theorem canonical_of_over?
    (nonzero : 0 < other.significand)
    (quotient : one.over? other = some number) :
    number.Canonical :=
  canonical_of_ofRatio (Nat.mul_pos one.ratio_pos (ratio_pos_of_significand nonzero)) quotient

theorem powerOfTen_significand_pos :
    ∀ power ≤ greatestTen, 0 < (powerOfTen power).significand := by
  decide +kernel

theorem canonical_of_overTen?
    {power : Nat}
    (canonical : one.Canonical)
    (scaled : one.overTen? power = some number) :
    number.Canonical := by
  induction one, power using overTen?.induct with
  | case1 one power within =>
    rw [overTen?, if_pos within] at scaled
    exact canonical_of_over? (powerOfTen_significand_pos power within) scaled
  | case2 one power beyond zero =>
    rw [overTen?, if_neg beyond, if_pos zero] at scaled
    obtain rfl := Option.some.inj scaled
    exact canonical
  | case3 one power beyond nonzero induction =>
    rw [overTen?, if_neg beyond, if_neg nonzero] at scaled
    obtain ⟨quotient, divided, scaled⟩ := Option.bind_eq_some_iff.mp scaled
    have positive := powerOfTen_significand_pos greatestTen le_rfl
    exact induction quotient (canonical_of_over? positive divided) scaled

theorem canonical_of_scaleTen?
    {power : Int}
    (canonical : one.Canonical)
    (scaled : one.scaleTen? power = some number) :
    number.Canonical := by
  unfold scaleTen? at scaled
  split_ifs at scaled
  · exact canonical_of_overTen? canonical scaled
  · exact canonical_of_times? scaled
  · obtain rfl := Option.some.inj scaled
    exact canonical

/-! ## Exact scaling -/

/-- A double lies in its own interval. -/
theorem attracts_magnitude (number : Binary64) : number.Attracts number.magnitude := by
  have power : (0 : ℚ) < 2 ^ number.exponent := zpow_pos two_pos _
  have reach : (0 : ℚ) < number.reachBelow := by
    unfold reachBelow
    split <;> norm_num
  have low : (4 * number.significand - number.reachBelow) * 2 ^ number.exponent <
      4 * number.magnitude := by
    unfold magnitude
    nlinarith
  have high : 4 * number.magnitude < (4 * number.significand + 2) * 2 ^ number.exponent := by
    unfold magnitude
    nlinarith
  exact ⟨low.le, high.le, Or.inr ⟨low, high⟩⟩

theorem times?_of_attracts
    (canonical : number.Canonical)
    (nonzero : 0 < number.significand)
    (sign : (one.negative != other.negative) = number.negative)
    (attracts : number.Attracts (one.magnitude * other.magnitude)) :
    one.times? other = some number := by
  rw [times?, sign]
  apply ofRatio_of_attracts canonical nonzero (Nat.mul_pos one.ratio_pos other.ratio_pos)
  rwa [Nat.cast_mul, Nat.cast_mul, mul_div_mul_comm, ratio_value, ratio_value]

theorem over?_of_attracts
    (canonical : number.Canonical)
    (nonzero : 0 < number.significand)
    (divisor : 0 < other.significand)
    (sign : (one.negative != other.negative) = number.negative)
    (attracts : number.Attracts (one.magnitude / other.magnitude)) :
    one.over? other = some number := by
  rw [over?, sign]
  apply ofRatio_of_attracts canonical nonzero
    (Nat.mul_pos one.ratio_pos (ratio_pos_of_significand divisor))
  rwa [Nat.cast_mul, Nat.cast_mul, ← div_div_div_eq, ratio_value, ratio_value]

/-- The last power of ten that is a double is `10 ^ 22`. -/
theorem powerOfTen_exact
    {power : Nat}
    (small : power ≤ 22) :
    (powerOfTen power).negative = false ∧ (powerOfTen power).magnitude = 10 ^ power := by
  have whole : ∀ power ≤ 22, (powerOfTen power).negative = false ∧
      (powerOfTen power).ratio.1 = 10 ^ power * (powerOfTen power).ratio.2 := by
    decide +kernel
  obtain ⟨sign, exact⟩ := whole power small
  have unit : ((powerOfTen power).ratio.2 : ℚ) ≠ 0 := by
    exact_mod_cast (powerOfTen power).ratio_pos.ne'
  refine ⟨sign, ?_⟩
  rw [← ratio_value, exact, Nat.cast_mul, mul_div_cancel_right₀ _ unit]
  norm_num

theorem scaleTen?_of_attracts
    {power : Int}
    (canonical : number.Canonical)
    (nonzero : 0 < number.significand)
    (small : power.natAbs ≤ 22)
    (sign : one.negative = number.negative)
    (attracts : number.Attracts (one.magnitude * 10 ^ power)) :
    one.scaleTen? power = some number := by
  have within : power.natAbs ≤ greatestTen := small.trans (by decide)
  have ⟨positive, exact⟩ := powerOfTen_exact small
  have same : (one.negative != (powerOfTen power.natAbs).negative) = number.negative := by
    simp [positive, sign]
  unfold scaleTen?
  split
  · rename_i below
    have power_eq : power = -(power.natAbs : Int) := by omega
    rw [overTen?, if_pos within]
    apply over?_of_attracts canonical nonzero (powerOfTen_significand_pos _ within) same
    rw [power_eq, zpow_neg, zpow_natCast, ← div_eq_mul_inv] at attracts
    rwa [exact]
  · rename_i above
    have power_eq : power = (power.natAbs : Int) := by omega
    rw [if_pos (by omega)]
    apply times?_of_attracts canonical nonzero same
    rw [power_eq, zpow_natCast] at attracts
    rwa [exact]

/-- Every positive integer of at most 53 bits is the magnitude of a double, and so is `2 ^ 53`. -/
theorem exists_magnitude_eq
    {value : Nat}
    (positive : 0 < value)
    (small : value ≤ 2 * hiddenBit) :
    ∃ number : Binary64, number.Canonical ∧ 0 < number.significand ∧ number.negative = false ∧
      number.magnitude = value := by
  rcases Nat.lt_or_eq_of_le small with below | rfl
  · have bits : value.log2 ≤ 52 :=
      Nat.lt_succ_iff.mp ((Nat.log2_lt positive.ne').mpr below)
    have least := Nat.log2_self_le positive.ne'
    have most := Nat.lt_log2_self (n := value)
    have split : 2 ^ value.log2 * 2 ^ (52 - value.log2) = hiddenBit := by
      rw [← Nat.pow_add, Nat.add_sub_of_le bits]
      rfl
    refine ⟨⟨false, value * 2 ^ (52 - value.log2), value.log2 - 52⟩,
      ⟨?_, ?_, ?_, Or.inr ?_⟩, Nat.mul_pos positive (Nat.pow_pos Nat.two_pos), rfl, ?_⟩
    · rw [← split, ← Nat.mul_assoc, ← Nat.pow_succ']
      exact Nat.mul_lt_mul_of_pos_right most (Nat.pow_pos Nat.two_pos)
    · simp only [leastExponent]
      omega
    · simp only [greatestExponent]
      omega
    · rw [← split]
      exact Nat.mul_le_mul_right _ least
    · have power : ((value.log2 : Int) - 52) = -((52 - value.log2 : Nat) : Int) := by omega
      simp only [magnitude, power, zpow_neg, zpow_natCast]
      push_cast
      field_simp
  · exact ⟨⟨false, hiddenBit, 1⟩, ⟨by decide, by decide, by decide, Or.inr le_rfl⟩, by decide,
      rfl, by simp [magnitude, mul_comm]⟩

/-- An integer of at most 53 bits is taken as it is. -/
theorem exists_ofRatio_eq
    {value : Nat}
    (positive : 0 < value)
    (small : value ≤ 2 * hiddenBit) :
    ∃ number, ofRatio false value 1 = some number ∧ number.negative = false ∧
      number.magnitude = value := by
  obtain ⟨number, canonical, nonzero, sign, exact⟩ := exists_magnitude_eq positive small
  have attracts := number.attracts_magnitude
  rw [exact, ← div_one (value : ℚ), ← Nat.cast_one] at attracts
  have rounds := ofRatio_of_attracts canonical nonzero one_pos attracts
  rw [sign] at rounds
  exact ⟨number, rounds, sign, exact⟩

end SemanticIndex.Binary64
