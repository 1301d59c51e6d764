import SemanticIndex.Proofs.Json.RoundTrip

/-!
# Texts of numbers

The numbers of JSON are an optional sign, a whole part without superfluous zeros, an optional
fraction and an optional exponent.  Each of them is the literal of a numeral.
-/

namespace SemanticIndex.Json

/-- Decimal digits, at least one. -/
structure IsDigits (digits : List Char) : Prop where
  nonempty : digits ≠ []
  digits : ∀ digit ∈ digits, digit.isDigit = true

inductive IsFraction : List Char → Prop where
  | none : IsFraction []
  | places {digits} : IsDigits digits → IsFraction ('.' :: digits)

inductive IsExponent : List Char → Prop where
  | none : IsExponent []
  | power {mark sign digits} :
    mark ∈ ['e', 'E'] → sign ∈ [[], ['+'], ['-']] → IsDigits digits →
      IsExponent (mark :: (sign ++ digits))

/-- A number, whose whole part has no superfluous leading zero. -/
inductive IsNumber : List Char → Prop where
  | intro {negative whole fraction exponent} :
    IsDigits whole → (whole.head? = some '0' → whole.length = 1) → IsFraction fraction →
      IsExponent exponent → IsNumber (sign negative ++ (whole ++ (fraction ++ exponent)))

theorem IsExponent.head
    {exponent : List Char}
    (isExponent : IsExponent exponent)
    {first : Char}
    (starts : first ∈ exponent.head?) :
    first ∈ ['e', 'E'] := by
  cases isExponent with
  | none => cases starts
  | power mark _ _ =>
    obtain rfl := Option.some.inj starts
    exact mark

theorem IsExponent.not_isDigit_head
    {exponent : List Char}
    (isExponent : IsExponent exponent)
    {first : Char}
    (starts : first ∈ exponent.head?) :
    first.isDigit = false := by
  have known := isExponent.head starts
  simp only [List.mem_cons, List.not_mem_nil, or_false] at known
  rcases known with rfl | rfl <;> rfl

theorem readPower?_digits
    {digits : List Char}
    (isDigits : IsDigits digits)
    (negative : Bool) :
    ∃ power, Numeral.readPower? negative digits = some power := by
  have split := digits_append [] isDigits.digits (by simp)
  rw [List.append_nil] at split
  simp [Numeral.readPower?, split, isDigits.nonempty]

theorem IsExponent.read
    {exponent : List Char}
    (isExponent : IsExponent exponent) :
    ∃ power, Numeral.readExponent? exponent = some power := by
  cases isExponent with
  | none => exact ⟨0, rfl⟩
  | @power mark sign digits known signed isDigits =>
    have marked : (mark == 'e' || mark == 'E') = true := by simpa using known
    simp only [List.mem_cons, List.not_mem_nil, or_false] at signed
    rcases signed with rfl | rfl | rfl
    · obtain ⟨first, rest, rfl⟩ := List.exists_cons_of_ne_nil isDigits.nonempty
      have digit := isDigits.digits first List.mem_cons_self
      obtain ⟨power, read⟩ := readPower?_digits isDigits false
      refine ⟨power, ?_⟩
      rw [List.nil_append, Numeral.readExponent?, if_pos marked]
      · exact read
      · rintro _ ⟨⟩
        cases digit
      · rintro _ ⟨⟩
        cases digit
    · obtain ⟨power, read⟩ := readPower?_digits isDigits false
      refine ⟨power, ?_⟩
      rw [List.cons_append, List.nil_append, Numeral.readExponent?, if_pos marked]
      exact read
    · obtain ⟨power, read⟩ := readPower?_digits isDigits true
      refine ⟨power, ?_⟩
      rw [List.cons_append, List.nil_append, Numeral.readExponent?, if_pos marked]
      exact read

theorem IsFraction.read
    {fraction exponent : List Char}
    (isFraction : IsFraction fraction)
    (isExponent : IsExponent exponent) :
    ∃ places, Numeral.readPlaces? (fraction ++ exponent) = some (places, exponent) := by
  cases isFraction with
  | none =>
    refine ⟨[], ?_⟩
    rw [List.nil_append, Numeral.readPlaces?]
    rintro rest rfl
    exact absurd (isExponent.head rfl) (by decide)
  | @places digits isDigits =>
    have split := digits_append exponent isDigits.digits fun _ => isExponent.not_isDigit_head
    refine ⟨digits, ?_⟩
    simp [Numeral.readPlaces?, split, isDigits.nonempty]

theorem isNumeralCharacter_of_isFraction
    {fraction : List Char}
    (isFraction : IsFraction fraction)
    {character : Char}
    (inside : character ∈ fraction) :
    isNumeralCharacter character = true := by
  cases isFraction with
  | none => cases inside
  | places isDigits =>
    rcases List.mem_cons.mp inside with rfl | digit
    · rfl
    · exact isNumeralCharacter_of_isDigit (isDigits.digits character digit)

theorem isNumeralCharacter_of_isExponent
    {exponent : List Char}
    (isExponent : IsExponent exponent)
    {character : Char}
    (inside : character ∈ exponent) :
    isNumeralCharacter character = true := by
  cases isExponent with
  | none => cases inside
  | power known signed isDigits =>
    simp only [List.mem_cons, List.not_mem_nil, or_false] at known signed
    rcases List.mem_cons.mp inside with rfl | inside
    · rcases known with rfl | rfl <;> rfl
    · rcases List.mem_append.mp inside with inside | digit
      · rcases signed with rfl | rfl | rfl
        · cases inside
        · rw [List.mem_singleton.mp inside]
          rfl
        · rw [List.mem_singleton.mp inside]
          rfl
      · exact isNumeralCharacter_of_isDigit (isDigits.digits character digit)

theorem exists_readUnsigned
    {whole fraction exponent : List Char}
    (isWhole : IsDigits whole)
    (leading : whole.head? = some '0' → whole.length = 1)
    (isFraction : IsFraction fraction)
    (isExponent : IsExponent exponent)
    (negative : Bool) :
    ∃ numeral,
      Numeral.readUnsigned? negative (whole ++ (fraction ++ exponent)) = some numeral := by
  have outside : ∀ next ∈ (fraction ++ exponent).head?, next.isDigit = false := by
    intro next inside
    cases isFraction with
    | none => exact isExponent.not_isDigit_head inside
    | places _ =>
      obtain rfl := Option.some.inj inside
      rfl
  have split := digits_append (fraction ++ exponent) isWhole.digits outside
  have fits : (whole.isEmpty || (whole.head? == some '0' && whole.length != 1)) = false := by
    simpa [isWhole.nonempty] using leading
  obtain ⟨places, readPlaces⟩ := isFraction.read isExponent
  obtain ⟨power, readPower⟩ := isExponent.read
  simp only [Numeral.readUnsigned?, split, fits, readPlaces, readPower, Bool.false_eq_true,
    if_false, Option.bind_eq_bind, Option.bind_some]
  exact ⟨_, rfl⟩

/-- Every number is the literal of some numeral. -/
theorem IsNumber.spells
    {characters : List Char}
    (isNumber : IsNumber characters) :
    ∃ numeral, Spells characters numeral := by
  obtain @⟨negative, whole, fraction, exponent, isWhole, leading, isFraction, isExponent⟩ :=
    isNumber
  obtain ⟨first, rest, starts⟩ := List.exists_cons_of_ne_nil isWhole.nonempty
  have digit : first.isDigit = true := isWhole.digits first (by simp [starts])
  obtain ⟨numeral, unsigned⟩ :=
    exists_readUnsigned isWhole leading isFraction isExponent negative
  refine ⟨numeral, ?_, ?_, ?_⟩
  · cases negative with
    | true => exact unsigned
    | false =>
      show Numeral.read? (whole ++ (fraction ++ exponent)) = _
      unfold Numeral.read?
      split
      · rename_i signed
        rw [starts] at signed
        obtain ⟨rfl, _⟩ := List.cons.inj signed
        cases digit
      · exact unsigned
  · intro character inside
    simp only [List.mem_append] at inside
    rcases inside with signed | whole | fraction | exponent
    · exact isNumeralCharacter_of_mem_sign signed
    · exact isNumeralCharacter_of_isDigit (isWhole.digits character whole)
    · exact isNumeralCharacter_of_isFraction isFraction fraction
    · exact isNumeralCharacter_of_isExponent isExponent exponent
  · cases negative with
    | true => exact ⟨'-', _, rfl, rfl⟩
    | false => exact ⟨first, _, by rw [starts]; rfl, by simp [digit]⟩

end SemanticIndex.Json
