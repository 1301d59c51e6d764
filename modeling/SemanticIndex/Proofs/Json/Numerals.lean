import SemanticIndex.Json.Token
import SemanticIndex.Json.Writer
import SemanticIndex.Proofs.Decimal.Shortest

/-!
# Written numbers read back

A written number is a sign before the digits of a literal: some before a point, some behind it,
and possibly an exponent.  Reading takes the same literal apart again.  The value of the literal
of an integer is the integer, and that of a double stands for its shortest decimal.
-/

namespace SemanticIndex.Json

/-! ## Literals -/

/-- The parts of a number literal without its sign. -/
structure Literal where
  whole : List Char
  places : List Char
  exponent : Option Int

namespace Literal

/-- The exponent of a literal as it is spelled. -/
def mark : Option Int → List Char
  | none => []
  | some exponent => ['e', if exponent < 0 then '-' else '+'] ++ Nat.toDigits 10 exponent.natAbs

def characters (literal : Literal) : List Char :=
  literal.whole ++ (if literal.places.isEmpty then [] else '.' :: literal.places) ++
    mark literal.exponent

/-- The literal with its sign, read. -/
def numeral (literal : Literal) (negative : Bool) : Numeral where
  negative := negative
  whole := literal.whole
  places := literal.places
  exponent := literal.exponent.getD 0
  integral := literal.places.isEmpty && literal.exponent.isNone

/-- A literal consists of digits, without a superfluous leading zero. -/
structure Plain (literal : Literal) : Prop where
  whole : ∀ digit ∈ literal.whole, digit.isDigit = true
  places : ∀ digit ∈ literal.places, digit.isDigit = true
  nonempty : literal.whole ≠ []
  leading : literal.whole.head? = some '0' → literal.whole.length = 1

end Literal

theorem isDigit_of_mem_toDigits
    {digit : Char}
    {number : Nat}
    (inside : digit ∈ Nat.toDigits 10 number) :
    digit.isDigit = true :=
  Nat.isDigit_of_mem_toDigits (by decide) (by decide) inside

theorem takeWhile_append_of_stop
    {keep : Char → Bool}
    {kept rest : List Char}
    (inside : ∀ character ∈ kept, keep character = true)
    (outside : ∀ first ∈ rest.head?, keep first = false) :
    (kept ++ rest).takeWhile keep = kept := by
  rw [List.takeWhile_append_of_pos inside]
  cases rest with
  | nil => simp
  | cons first rest => simp [outside first rfl]

theorem dropWhile_append_of_stop
    {keep : Char → Bool}
    {kept rest : List Char}
    (inside : ∀ character ∈ kept, keep character = true)
    (outside : ∀ first ∈ rest.head?, keep first = false) :
    (kept ++ rest).dropWhile keep = rest := by
  rw [List.dropWhile_append_of_pos inside]
  cases rest with
  | nil => rfl
  | cons first rest => simp [outside first rfl]

theorem digits_append
    {digits : List Char}
    (rest : List Char)
    (inside : ∀ digit ∈ digits, digit.isDigit = true)
    (outside : ∀ first ∈ rest.head?, first.isDigit = false) :
    Numeral.digits (digits ++ rest) = (digits, rest) := by
  rw [Numeral.digits, takeWhile_append_of_stop inside outside,
    dropWhile_append_of_stop inside outside]

theorem digitsValue_eq (digits : List Char) :
    digitsValue digits = Nat.ofDigitChars 10 digits 0 :=
  Nat.ofDigitChars_eq_foldl.symm

theorem digitsValue_toDigits (number : Nat) : digitsValue (Nat.toDigits 10 number) = number := by
  rw [digitsValue_eq, Nat.ofDigitChars_ten_toDigits]

theorem digitsValue_append_zeros (digits : List Char) (count : Nat) :
    digitsValue (digits ++ List.replicate count '0') = digitsValue digits * 10 ^ count := by
  rw [digitsValue_eq, digitsValue_eq, Nat.ofDigitChars_append, Nat.ofDigitChars_replicate_zero,
    Nat.mul_comm]

theorem digitsValue_zeros_append (digits : List Char) (count : Nat) :
    digitsValue (List.replicate count '0' ++ digits) = digitsValue digits := by
  rw [digitsValue_eq, digitsValue_eq, Nat.ofDigitChars_append, Nat.ofDigitChars_replicate_zero,
    Nat.mul_zero]

theorem readPower?_toDigits
    (negative : Bool)
    (number : Nat) :
    Numeral.readPower? negative (Nat.toDigits 10 number) =
      some (if negative then -(number : Int) else number) := by
  have inside : ∀ digit ∈ Nat.toDigits 10 number, digit.isDigit = true :=
    fun _ => isDigit_of_mem_toDigits
  have split := digits_append [] inside (by simp)
  rw [List.append_nil] at split
  simp [Numeral.readPower?, split, Nat.toDigits_ne_nil, digitsValue_toDigits]

theorem readExponent?_mark (exponent : Option Int) :
    Numeral.readExponent? (Literal.mark exponent) = some (exponent.getD 0) := by
  cases exponent with
  | none => rfl
  | some exponent =>
    rcases Decidable.em (exponent < 0) with below | above
    · have back : -(exponent.natAbs : Int) = exponent := by omega
      simp [-Nat.cast_natAbs, Literal.mark, below, Numeral.readExponent?,
        readPower?_toDigits, back]
    · have back : (exponent.natAbs : Int) = exponent := by omega
      simp [-Nat.cast_natAbs, Literal.mark, above, Numeral.readExponent?,
        readPower?_toDigits, back]

/-- What follows the digits before the point. -/
def Literal.tail (literal : Literal) : List Char :=
  (if literal.places.isEmpty then [] else '.' :: literal.places) ++ mark literal.exponent

theorem head_mark
    {exponent : Option Int}
    {first : Char}
    (starts : first ∈ (Literal.mark exponent).head?) :
    first = 'e' := by
  cases exponent with
  | none => simp [Literal.mark] at starts
  | some exponent => simpa [Literal.mark, eq_comm] using starts

theorem readPlaces?_tail
    {literal : Literal}
    (plain : literal.Plain) :
    Numeral.readPlaces? literal.tail = some (literal.places, Literal.mark literal.exponent) := by
  have digits := plain.places
  unfold Literal.tail
  generalize literal.places = places at *
  cases places with
  | nil =>
    simp only [List.isEmpty_nil, if_true, List.nil_append]
    unfold Numeral.readPlaces?
    split
    · rename_i spelled
      have point := @head_mark literal.exponent '.' (by simp [spelled])
      simp at point
    · rfl
  | cons first rest =>
    have split := digits_append (Literal.mark literal.exponent) digits (by
      intro first starts
      rw [head_mark starts]
      rfl)
    rw [List.cons_append] at split
    simp [Numeral.readPlaces?, split]

theorem readUnsigned?_characters
    {literal : Literal}
    (plain : literal.Plain)
    (negative : Bool) :
    Numeral.readUnsigned? negative literal.characters = some (literal.numeral negative) := by
  have split := digits_append literal.tail plain.whole (by
    intro first starts
    unfold Literal.tail at starts
    cases places : literal.places with
    | nil =>
      simp only [places, List.isEmpty_nil, if_true, List.nil_append] at starts
      rw [head_mark starts]
      rfl
    | cons =>
      simp [places] at starts
      rw [← starts]
      rfl)
  have spelled : literal.characters = literal.whole ++ literal.tail := List.append_assoc ..
  have fits : (literal.whole.isEmpty ||
      (literal.whole.head? == some '0' && literal.whole.length != 1)) = false := by
    simpa [plain.nonempty] using plain.leading
  have bare : literal.tail.isEmpty = (literal.places.isEmpty && literal.exponent.isNone) := by
    unfold Literal.tail
    cases literal.places <;> cases literal.exponent <;> rfl
  simp only [Numeral.readUnsigned?, spelled, split, fits, readPlaces?_tail plain,
    readExponent?_mark, Bool.false_eq_true, if_false, Option.bind_eq_bind, Option.bind_some, bare]
  rfl

/-- A minus sign, if any. -/
def sign (negative : Bool) : List Char :=
  if negative then ['-'] else []

/-- The characters of a number literal and the literal that they spell. -/
structure Spells (characters : List Char) (numeral : Numeral) : Prop where
  read : Numeral.read? characters = some numeral
  inside : ∀ character ∈ characters, isNumeralCharacter character = true
  start : ∃ first rest, characters = first :: rest ∧ (first.isDigit || first == '-') = true

theorem isNumeralCharacter_of_isDigit
    {character : Char}
    (digit : character.isDigit = true) :
    isNumeralCharacter character = true := by
  simp [isNumeralCharacter, digit]

theorem isNumeralCharacter_of_mem_sign
    {character : Char}
    {negative : Bool}
    (inside : character ∈ sign negative) :
    isNumeralCharacter character = true := by
  cases negative <;> simp [sign] at inside
  rw [inside]
  rfl

theorem isNumeralCharacter_of_mem_mark
    {character : Char}
    {exponent : Option Int}
    (inside : character ∈ Literal.mark exponent) :
    isNumeralCharacter character = true := by
  cases exponent with
  | none => simp [Literal.mark] at inside
  | some exponent =>
    simp only [Literal.mark, List.cons_append, List.nil_append, List.mem_cons] at inside
    rcases inside with rfl | rfl | digit
    · rfl
    · split <;> rfl
    · exact isNumeralCharacter_of_isDigit (isDigit_of_mem_toDigits digit)

theorem isNumeralCharacter_of_mem_characters
    {literal : Literal}
    (plain : literal.Plain)
    {character : Char}
    (inside : character ∈ literal.characters) :
    isNumeralCharacter character = true := by
  simp only [Literal.characters, List.mem_append] at inside
  rcases inside with (whole | places) | mark
  · exact isNumeralCharacter_of_isDigit (plain.whole character whole)
  · split at places
    · cases places
    · rcases List.mem_cons.mp places with rfl | place
      · rfl
      · exact isNumeralCharacter_of_isDigit (plain.places character place)
  · exact isNumeralCharacter_of_mem_mark mark

theorem spells_of_plain
    {literal : Literal}
    (plain : literal.Plain)
    (negative : Bool) :
    Spells (sign negative ++ literal.characters) (literal.numeral negative) := by
  obtain ⟨first, rest, starts⟩ := List.exists_cons_of_ne_nil plain.nonempty
  have digit : first.isDigit = true := plain.whole first (by simp [starts])
  have spelled : literal.characters = first :: (rest ++ literal.tail) := by
    rw [Literal.characters, List.append_assoc, starts]
    rfl
  constructor
  · have unsigned := readUnsigned?_characters plain negative
    cases negative with
    | true => exact unsigned
    | false =>
      show Numeral.read? literal.characters = _
      unfold Numeral.read?
      split
      · rename_i signed
        rw [spelled] at signed
        obtain ⟨rfl, _⟩ := List.cons.inj signed
        exact absurd digit (by decide)
      · exact unsigned
  · intro character inside
    rcases List.mem_append.mp inside with signed | inside
    · exact isNumeralCharacter_of_mem_sign signed
    · exact isNumeralCharacter_of_mem_characters plain inside
  · cases negative with
    | true => exact ⟨'-', _, rfl, rfl⟩
    | false => exact ⟨first, _, spelled, by simp [digit]⟩

/-! ## Integers -/

theorem head?_toDigits
    {number : Nat}
    (positive : 0 < number) :
    (Nat.toDigits 10 number).head? ≠ some '0' := by
  induction number using Nat.strongRecOn with
  | _ number induction =>
    rcases Nat.lt_or_ge number 10 with small | large
    · rw [Nat.toDigits_of_lt_base small]
      have digit : ∀ digit < 10, 0 < digit → [digit.digitChar].head? ≠ some '0' := by decide
      exact digit number small positive
    · have most : 0 < number / 10 := Nat.div_pos large (by norm_num)
      have least : number % 10 < 10 := Nat.mod_lt number (by norm_num)
      have split := Nat.toDigits_append_toDigits (by norm_num) most least
      rw [Nat.div_add_mod] at split
      rw [← split, List.head?_append_of_ne_nil _ Nat.toDigits_ne_nil]
      exact induction (number / 10) (Nat.div_lt_self positive (by norm_num)) most

/-- The literal of an integer. -/
def integerLiteral (value : Int) : Literal :=
  ⟨Nat.toDigits 10 value.natAbs, [], none⟩

theorem integerLiteral_plain (value : Int) : (integerLiteral value).Plain where
  whole _ := isDigit_of_mem_toDigits
  places := by simp [integerLiteral]
  nonempty := Nat.toDigits_ne_nil
  leading := by
    rcases Nat.eq_zero_or_pos value.natAbs with zero | positive
    · simp [integerLiteral, zero]
    · intro starts
      exact absurd starts (head?_toDigits positive)

theorem writeInteger_eq (value : Int) :
    writeInteger value = sign (value < 0) ++ (integerLiteral value).characters := by
  unfold writeInteger
  split <;> simp_all [sign, integerLiteral, Literal.characters, Literal.mark]

theorem value?_integerLiteral
    {value : Int}
    (least : Int64.minValue.toInt ≤ value)
    (greatest : value < UInt64.size) :
    ((integerLiteral value).numeral (value < 0)).value? = some (.integer value) := by
  simp only [Numeral.value?, Literal.numeral, integerLiteral, digitsValue_toDigits]
  rcases Int.lt_or_le value 0 with below | above
  · have size : -(value.natAbs : Int) = value := by omega
    have positive : 0 < value.natAbs := by omega
    simpa [-Nat.cast_natAbs, below, positive, size] using least
  · have size : (value.natAbs : Int) = value := by omega
    have fits : value.natAbs < UInt64.size := by omega
    simp [-Nat.cast_natAbs, Int.not_lt.mpr above, size, fits]

/-! ## Doubles -/

/-- The literal of a decimal with the given digits, whose last one counts `10 ^ power`. -/
def decimalLiteral (digits : List Char) (power : Int) : Literal :=
  let leading := power + digits.length - 1
  if -5 ≤ leading && leading ≤ 15 then
    if 0 ≤ power then ⟨digits ++ List.replicate power.toNat '0', ['0'], none⟩
    else if 0 ≤ leading then
      ⟨digits.take (leading + 1).toNat, digits.drop (leading + 1).toNat, none⟩
    else ⟨['0'], List.replicate (-leading - 1).toNat '0' ++ digits, none⟩
  else ⟨digits.take 1, digits.drop 1, some leading⟩

theorem writeDecimal_eq
    {digits : List Char}
    (nonempty : digits ≠ [])
    (power : Int) :
    writeDecimal digits power = (decimalLiteral digits power).characters := by
  have length : 0 < digits.length := List.length_pos_iff.mpr nonempty
  unfold writeDecimal decimalLiteral
  dsimp only
  split
  · split
    · simp [Literal.characters, Literal.mark]
    · split
      · have more : (digits.drop (power + digits.length - 1 + 1).toNat).isEmpty = false := by
          simp
          omega
        simp only [Literal.characters, Literal.mark, more, Bool.false_eq_true, if_false,
          List.append_nil]
      · simp [Literal.characters, Literal.mark, nonempty]
  · have more : (digits.drop 1).isEmpty = (digits.length == 1) := by
      rcases digits with _ | ⟨first, _ | ⟨second, rest⟩⟩
      · exact absurd rfl nonempty
      · rfl
      · simp
    simp only [Literal.characters, Literal.mark, more, List.append_assoc]

theorem decimalLiteral_plain
    {digits : List Char}
    (inside : ∀ digit ∈ digits, digit.isDigit = true)
    (nonempty : digits ≠ [])
    (leading : digits.head? ≠ some '0')
    (power : Int) :
    (decimalLiteral digits power).Plain := by
  have length : 0 < digits.length := List.length_pos_iff.mpr nonempty
  have zeros (count : Nat) : ∀ digit ∈ List.replicate count '0', digit.isDigit = true := by
    intro digit zero
    rw [List.eq_of_mem_replicate zero]
    rfl
  unfold decimalLiteral
  dsimp only
  split
  · split
    · constructor
      · intro digit found
        exact (List.mem_append.mp found).elim (inside digit) (zeros _ digit)
      · simp
      · simp [nonempty]
      · rw [List.head?_append_of_ne_nil _ nonempty]
        exact fun zero => absurd zero leading
    · split
      · constructor
        · exact fun digit found => inside digit (List.mem_of_mem_take found)
        · exact fun digit found => inside digit (List.mem_of_mem_drop found)
        · simp [nonempty]
          omega
        · intro zero
          rw [List.head?_take] at zero
          split at zero
          · cases zero
          · exact absurd zero leading
      · constructor
        · simp
        · intro digit found
          exact (List.mem_append.mp found).elim (zeros _ digit) (inside digit)
        · simp
        · simp
  · constructor
    · exact fun digit found => inside digit (List.mem_of_mem_take found)
    · exact fun digit found => inside digit (List.mem_of_mem_drop found)
    · simp [nonempty]
    · intro zero
      rw [List.head?_take] at zero
      exact absurd zero leading

theorem decimalLiteral_value
    {digits : List Char}
    (nonempty : digits ≠ [])
    (power : Int) :
    let literal := decimalLiteral digits power
    (digitsValue (literal.whole ++ literal.places) *
        10 ^ (literal.exponent.getD 0 - literal.places.length : Int) : ℚ) =
      digitsValue digits * 10 ^ power := by
  have ten : (10 : ℚ) ≠ 0 := by norm_num
  have length : 0 < digits.length := List.length_pos_iff.mpr nonempty
  unfold decimalLiteral
  dsimp only
  split
  · split
    · rename_i above
      obtain ⟨count, rfl⟩ := Int.eq_ofNat_of_zero_le above
      rw [List.append_assoc, Int.toNat_natCast, ← List.replicate_succ', digitsValue_append_zeros,
        Nat.cast_mul, Nat.cast_pow, pow_succ, zpow_natCast]
      simp [← mul_assoc]
    · split
      · rw [List.take_append_drop]
        congr 2
        simp
        omega
      · dsimp only
        rw [← List.append_assoc, List.singleton_append, ← List.replicate_succ,
          digitsValue_zeros_append]
        congr 2
        simp
        omega
  · rw [List.take_append_drop]
    congr 2
    simp
    omega

/-- The literal of a double without its sign. -/
def fractionLiteral (value : Binary64) : Literal :=
  if value.significand == 0 then ⟨['0'], ['0'], none⟩
  else decimalLiteral (Nat.toDigits 10 value.shortest.coefficient) value.shortest.power

/-- The literal of a double stands for its shortest decimal. -/
theorem fractionLiteral_value
    {value : Binary64}
    (nonzero : 0 < value.significand) :
    let literal := fractionLiteral value
    (digitsValue (literal.whole ++ literal.places) *
        10 ^ (literal.exponent.getD 0 - literal.places.length : Int) : ℚ) =
      value.shortest.value := by
  have given : (value.significand == 0) = false := by simpa using nonzero.ne'
  have literalValue := decimalLiteral_value
    (@Nat.toDigits_ne_nil value.shortest.coefficient 10) value.shortest.power
  rw [digitsValue_toDigits] at literalValue
  rw [fractionLiteral, given, if_neg Bool.false_ne_true]
  exact literalValue

theorem writeFraction_eq (value : Binary64) :
    writeFraction value = sign value.negative ++ (fractionLiteral value).characters := by
  unfold writeFraction fractionLiteral
  dsimp only
  split
  · rfl
  · rw [writeDecimal_eq Nat.toDigits_ne_nil]
    rfl

theorem shortest_coefficient_pos
    {value : Binary64}
    (canonical : value.Canonical)
    (nonzero : 0 < value.significand) :
    0 < value.shortest.coefficient := by
  have positive := (Binary64.shortest_attracts canonical nonzero).pos nonzero
  apply Nat.pos_of_ne_zero
  intro zero
  simp [Decimal.value, zero] at positive

theorem fractionLiteral_plain
    {value : Binary64}
    (canonical : value.Canonical) :
    (fractionLiteral value).Plain := by
  unfold fractionLiteral
  split
  · constructor <;> simp
  · rename_i nonzero
    have above : 0 < value.significand := by simpa [Nat.pos_iff_ne_zero] using nonzero
    have positive := shortest_coefficient_pos canonical above
    exact decimalLiteral_plain (fun _ => isDigit_of_mem_toDigits) Nat.toDigits_ne_nil
      (head?_toDigits positive) value.shortest.power

theorem not_integral_decimalLiteral
    {digits : List Char}
    (nonempty : digits ≠ [])
    (power : Int)
    (negative : Bool) :
    ((decimalLiteral digits power).numeral negative).integral = false := by
  have length : 0 < digits.length := List.length_pos_iff.mpr nonempty
  unfold decimalLiteral
  dsimp only [Literal.numeral]
  split_ifs <;> simp
  · omega
  · intro _
    exact nonempty

theorem value?_of_not_integral
    {numeral : Numeral}
    (fraction : numeral.integral = false) :
    numeral.value? = numeral.double?.map Json.fraction := by
  simp [Numeral.value?, fraction]

theorem not_integral_fractionLiteral (value : Binary64) :
    ((fractionLiteral value).numeral value.negative).integral = false := by
  unfold fractionLiteral
  split
  · rfl
  · exact not_integral_decimalLiteral Nat.toDigits_ne_nil _ _

theorem spells_fraction
    {value : Binary64}
    (canonical : value.Canonical) :
    Spells (writeFraction value) ((fractionLiteral value).numeral value.negative) := by
  rw [writeFraction_eq]
  exact spells_of_plain (fractionLiteral_plain canonical) value.negative

end SemanticIndex.Json
