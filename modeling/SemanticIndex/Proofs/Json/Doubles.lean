import SemanticIndex.Proofs.Decimal.Scaling
import SemanticIndex.Proofs.Json.Numerals

/-!
# Doubles that are read back

A double is written by its shortest decimal, but it is read by scaling a significand, which need
not give the double that is nearest to the literal.  So it depends on the double whether it is read
back.  Those with a short literal are, as their significand and the power of ten are exact.
-/

namespace SemanticIndex.Json

/-! ## Digits that are taken -/

theorem le_foldl_digits (digits : List Char) (total : Nat) :
    total ≤ digits.foldl (fun total digit => 10 * total + (digit.toNat - 48)) total := by
  induction digits generalizing total with
  | nil => exact le_rfl
  | cons first rest induction =>
    have longer := induction (10 * total + (first.toNat - 48))
    rw [List.foldl_cons]
    omega

/-- Digits are all taken when their number stays below `2 ^ 64`. -/
theorem gather_of_lt
    {digits : List Char}
    {significand : Nat}
    (fits : digits.foldl (fun total digit => 10 * total + (digit.toNat - 48)) significand <
      UInt64.size) :
    Numeral.gather significand digits =
      (digits.foldl (fun total digit => 10 * total + (digit.toNat - 48)) significand, []) := by
  induction digits generalizing significand with
  | nil => rfl
  | cons first rest induction =>
    have longer := le_foldl_digits rest (10 * significand + (first.toNat - 48))
    rw [List.foldl_cons] at fits ⊢
    rw [Numeral.gather, if_pos (longer.trans_lt fits), induction fits]

theorem scientific_of_lt
    {numeral : Numeral}
    (fits : digitsValue (numeral.whole ++ numeral.places) < UInt64.size) :
    numeral.scientific =
      (digitsValue (numeral.whole ++ numeral.places),
        numeral.exponent - numeral.places.length) := by
  rw [digitsValue, List.foldl_append] at fits ⊢
  have whole := gather_of_lt ((le_foldl_digits _ _).trans_lt fits)
  simp [Numeral.scientific, whole, gather_of_lt fits]

/-! ## Read-back -/

/-- The double that is computed for a literal is canonical. -/
theorem canonical_of_double?
    {numeral : Numeral}
    {number : Binary64}
    (computed : numeral.double? = some number) :
    number.Canonical := by
  obtain ⟨rounded, rounds, computed⟩ := Option.bind_eq_some_iff.mp computed
  obtain ⟨scaled, scales, computed⟩ := Option.bind_eq_some_iff.mp computed
  obtain rfl := Option.some.inj computed
  have ⟨small, least, greatest, normal⟩ :=
    Binary64.canonical_of_scaleTen? (Binary64.canonical_of_ofRatio one_pos rounds) scales
  exact ⟨small, least, greatest, normal⟩

end SemanticIndex.Json

namespace SemanticIndex.Binary64

open Json

/--
The literal that is written for a double reads as the double.  Not every double does, as reading
may miss the last place.
-/
def ReadsBack (number : Binary64) : Prop :=
  (Numeral.read? (writeFraction number)).bind Numeral.double? = some number

instance : DecidablePred ReadsBack :=
  fun number => inferInstanceAs (Decidable (_ = some number))

variable {number : Binary64}

theorem ReadsBack.canonical (readsBack : number.ReadsBack) : number.Canonical := by
  obtain ⟨_, _, computed⟩ := Option.bind_eq_some_iff.mp readsBack
  exact canonical_of_double? computed

theorem readsBack_iff_double?
    (canonical : number.Canonical) :
    number.ReadsBack ↔
      ((fractionLiteral number).numeral number.negative).double? = some number := by
  rw [ReadsBack, (spells_fraction canonical).read, Option.bind_some]

/-- A double that is read back is the value of its literal. -/
theorem ReadsBack.value?_fractionLiteral
    (readsBack : number.ReadsBack) :
    ((fractionLiteral number).numeral number.negative).value? = some (.fraction number) := by
  have computed := (readsBack_iff_double? readsBack.canonical).mp readsBack
  rw [value?_of_not_integral (not_integral_fractionLiteral number), computed]
  rfl

theorem readsBack_zero (negative : Bool) : (zero negative).ReadsBack := by
  cases negative <;> decide +kernel

/--
A double is read back whenever its literal is short: then no digit is dropped, the significand and
the power of ten are doubles, and the only rounding is that of their product or quotient.
-/
theorem readsBack_of_short
    (canonical : number.Canonical)
    (few : digitsValue ((fractionLiteral number).whole ++ (fractionLiteral number).places) ≤
      2 * hiddenBit)
    (near : ((fractionLiteral number).exponent.getD 0 -
      (fractionLiteral number).places.length : Int).natAbs ≤ 22) :
    number.ReadsBack := by
  rcases significand_pos_or_eq_zero canonical with nonzero | vanishes
  swap
  · rw [vanishes]
    exact readsBack_zero number.negative
  have attracts := shortest_attracts canonical nonzero
  have value := fractionLiteral_value nonzero
  have all := @scientific_of_lt ((fractionLiteral number).numeral number.negative)
    (few.trans_lt (by decide))
  rw [← value] at attracts
  rw [readsBack_iff_double? canonical, Numeral.double?, all]
  generalize fractionLiteral number = literal at *
  dsimp only [Literal.numeral] at *
  have positive : 0 < digitsValue (literal.whole ++ literal.places) := by
    apply Nat.pos_of_ne_zero
    intro zero
    have above := attracts.pos nonzero
    simp [zero] at above
  obtain ⟨rounded, rounds, sign, exact⟩ := exists_ofRatio_eq positive few
  rw [← exact] at attracts
  -- The sign is left to the end, and the interval does not depend on it.
  have scales : rounded.scaleTen? (literal.exponent.getD 0 - literal.places.length) =
      some { number with negative := false } :=
    scaleTen?_of_attracts ⟨canonical.small, canonical.least, canonical.greatest, canonical.normal⟩
      nonzero near sign ⟨attracts.low, attracts.high, attracts.inside⟩
  simp only [rounds, scales, Option.bind_eq_bind, Option.bind_some]

/-- The significand `90071992547409910` of `9007199254740991.0` is no double and is rounded. -/
example : ¬ReadsBack ⟨false, 0x1FFFFFFFFFFFFF, 0⟩ := by decide +kernel

end SemanticIndex.Binary64
