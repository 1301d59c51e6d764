import Mathlib.Data.List.TakeWhile
import Mathlib.Data.Prod.Lex
import SemanticIndex.Proofs.Store.Contiguity
import SemanticIndex.Proofs.Text.ByteOrder

/-!
# The orders of ids

Each kind of store lists documents by a number that it reads in their ids, and by the ids where the
numbers agree.  This is a linear order whatever is read, so rows with distinct ids have exactly one
sorted arrangement.  The readings differ on odd texts and agree on decimal texts, which they both
read as the number that is written.
-/

namespace SemanticIndex

/-! ## Ranks -/

section Rank

variable {number value : Type} [LinearOrder number] {reading : String → number}

/-- What an id is listed by: the number that is read in it and, among equals, the id itself. -/
def rank (reading : String → number) (id : String) : number ×ₗ String :=
  toLex (reading id, id)

omit [LinearOrder number] in
theorem rank_injective : Function.Injective (rank reading) := by
  intro one other same
  exact congrArg Prod.snd (toLex.injective same)

theorem rank_lt_iff
    {one other : String} :
    rank reading one < rank reading other ↔
      reading one < reading other ∨
        reading one = reading other ∧ utf8Bytes one < utf8Bytes other := by
  rw [rank, rank, Prod.Lex.toLex_lt_toLex, utf8Bytes_lt_iff]

/-- Rows with distinct ids are sorted strictly. -/
theorem pairwise_rank_lt_mergeSort
    {order : String → String → Bool}
    (ordersByRank : ∀ {one other : String},
      order one other = true ↔ rank reading one ≤ rank reading other)
    {rows : List (String × value)}
    (distinct : (rows.map Prod.fst).Nodup) :
    (rows.mergeSort fun one other => order one.1 other.1).Pairwise
      fun one other => rank reading one.1 < rank reading other.1 := by
  have sorted : (rows.mergeSort fun one other => order one.1 other.1).Pairwise
      fun one other => order one.1 other.1 = true := by
    apply List.pairwise_mergeSort
    · intro one middle other before after
      rw [ordersByRank] at before after ⊢
      exact before.trans after
    · intro one other
      rw [Bool.or_eq_true, ordersByRank, ordersByRank]
      exact le_total _ _
  have ids : ((rows.mergeSort fun one other => order one.1 other.1).map Prod.fst).Nodup :=
    ((List.mergeSort_perm _ _).map Prod.fst).nodup_iff.mpr distinct
  rw [List.nodup_iff_pairwise_ne, List.pairwise_map] at ids
  refine (sorted.and ids).imp ?_
  rintro one other ⟨before, differ⟩
  exact lt_of_le_of_ne (ordersByRank.mp before) (rank_injective.ne differ)

/-- Lists with the same elements are equal if both are sorted strictly. -/
theorem eq_of_pairwise_rank_lt
    {item : Type}
    {key : item → String}
    {one other : List item}
    (sameItems : one.Perm other)
    (sorted : one.Pairwise fun first second => rank reading (key first) < rank reading (key second))
    (otherSorted :
      other.Pairwise fun first second => rank reading (key first) < rank reading (key second)) :
    one = other := by
  apply sameItems.eq_of_pairwise _ sorted otherSorted
  intro first second _ _ before after
  exact absurd after (lt_asymm before)

end Rank

theorem integerOrder_iff
    {one other : String} :
    integerOrder one other = true ↔ rank leadingInteger one ≤ rank leadingInteger other := by
  rw [rank, rank, Prod.Lex.toLex_le_toLex]
  simp [integerOrder]

theorem positionOrder_iff
    {one other : String} :
    positionOrder one other = true ↔ rank positionOf one ≤ rank positionOf other := by
  rw [rank, rank, Prod.Lex.toLex_le_toLex]
  simp [positionOrder]

/-! ## Decimal texts -/

theorem toNat_of_isDigit
    {character : Char}
    (digit : character.isDigit = true) :
    48 ≤ character.toNat ∧ character.toNat ≤ 57 := by
  simpa [Char.isDigit, UInt32.le_iff_toNat_le] using digit

theorem isDigit_of_mem_toDigits
    {number : Nat}
    {character : Char}
    (inside : character ∈ Nat.toDigits 10 number) :
    character.isDigit = true :=
  Nat.isDigit_of_mem_toDigits (by decide) (by decide) inside

/-- A decimal text starts with a digit. -/
theorem exists_toList_toString (number : Nat) :
    ∃ first rest, (toString number).toList = first :: rest ∧
      Nat.toDigits 10 number = first :: rest ∧ first.isDigit = true := by
  have spelled : (toString number).toList = Nat.toDigits 10 number := by
    rw [Nat.toString_eq_ofList_toDigits, String.toList_ofList]
  cases digits : Nat.toDigits 10 number with
  | nil => exact absurd digits Nat.toDigits_ne_nil
  | cons first rest =>
    refine ⟨first, rest, spelled.trans digits, rfl, @isDigit_of_mem_toDigits number first ?_⟩
    rw [digits]
    exact List.mem_cons_self

theorem leadingDigits_toDigits (number : Nat) :
    leadingDigits (Nat.toDigits 10 number) = number := by
  have digits : (Nat.toDigits 10 number).takeWhile Char.isDigit = Nat.toDigits 10 number :=
    List.takeWhile_eq_self_iff.mpr fun _ => isDigit_of_mem_toDigits
  rw [leadingDigits, digits]
  exact Nat.ofDigitChars_ten_toDigits

theorem decimalValue?_toDigits (number : Nat) :
    decimalValue? (Nat.toDigits 10 number) = some number := by
  have digits : (Nat.toDigits 10 number).all Char.isDigit = true :=
    List.all_eq_true.mpr fun _ => isDigit_of_mem_toDigits
  have written : (Nat.toDigits 10 number).isEmpty = false :=
    List.isEmpty_eq_false_iff.mpr Nat.toDigits_ne_nil
  rw [decimalValue?, digits, written]
  exact congrArg some Nat.ofDigitChars_ten_toDigits

theorem leadingInteger_toString (number : Nat) :
    leadingInteger (toString number) = min (number : Int) Int64.maxValue.toInt := by
  obtain ⟨first, rest, spelled, digits, digit⟩ := exists_toList_toString number
  have value := leadingDigits_toDigits number
  have range := toNat_of_isDigit digit
  have notSpace : isLeadingSpace first = false := by
    have notBlank : first ≠ ' ' := by
      rintro rfl
      exact absurd range (by decide)
    simp [isLeadingSpace, notBlank]
    omega
  have kept : (first :: rest).dropWhile isLeadingSpace = first :: rest := by
    rw [List.dropWhile_cons, notSpace]
    rfl
  rw [leadingInteger, spelled, kept]
  split
  · rename_i signed
    obtain ⟨rfl, _⟩ := List.cons.inj signed
    exact absurd range (by decide)
  · rename_i signed
    obtain ⟨rfl, _⟩ := List.cons.inj signed
    exact absurd range (by decide)
  · rw [← digits, value]

theorem positionOf_toString (number : Nat) :
    positionOf (toString number) = min number (UInt64.size - 1) := by
  obtain ⟨first, rest, spelled, digits, digit⟩ := exists_toList_toString number
  have range := toNat_of_isDigit digit
  have unsigned : first ≠ '+' := by
    rintro rfl
    exact absurd range (by decide)
  rw [positionOf, spelled]
  split
  · rename_i value found
    split at found
    · rename_i signed
      exact absurd (List.cons.inj signed).1 unsigned
    · rw [← digits, decimalValue?_toDigits] at found
      obtain rfl := Option.some.inj found
      split <;> omega
  · rename_i missing
    split at missing
    · rename_i signed
      exact absurd (List.cons.inj signed).1 unsigned
    · rw [← digits, decimalValue?_toDigits] at missing
      exact nomatch missing

/-- Within the range of the integers, both readings of a decimal text give its number. -/
theorem readings_toString
    {number : Nat}
    (within : number < 2 ^ 63) :
    positionOf (toString number) = number ∧ leadingInteger (toString number) = number := by
  have greatest : Int64.maxValue.toInt = 9223372036854775807 := by decide
  have size : UInt64.size = 18446744073709551616 := by decide
  rw [positionOf_toString, leadingInteger_toString, greatest, size]
  omega

end SemanticIndex
