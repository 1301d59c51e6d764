import Mathlib.Data.List.Lex
import Mathlib.Data.String.Basic

/-!
# The order of texts by their bytes

Texts are compared character by character.  In their bytes, a smaller character has a smaller byte
at the first place where the two encodings differ, so comparing the bytes of texts comes to the
same.
-/

namespace SemanticIndex

/-- The bytes of a text. -/
def utf8Bytes (text : String) : List UInt8 :=
  text.toUTF8.data.toList

theorem utf8Bytes_eq_flatMap (text : String) :
    utf8Bytes text = text.toList.flatMap String.utf8EncodeChar := by
  have encoded : text.toUTF8 = text.toList.utf8Encode := by
    rw [← String.toByteArray_ofList, String.ofList_toList]
    rfl
  rw [utf8Bytes, encoded, List.utf8Encode, List.toList_data_toByteArray]

/-- Numbers of four digits in base 64, the first below eight, are ordered by their digits. -/
theorem digits_lt_of_lt
    {one other : Nat}
    (before : one < other)
    (bound : other < 2097152) :
    one / 262144 % 8 < other / 262144 % 8 ∨ one / 262144 % 8 = other / 262144 % 8 ∧
      (one / 4096 % 64 < other / 4096 % 64 ∨ one / 4096 % 64 = other / 4096 % 64 ∧
        (one / 64 % 64 < other / 64 % 64 ∨
          one / 64 % 64 = other / 64 % 64 ∧ one % 64 < other % 64)) := by
  rw [Nat.mod_eq_of_lt (a := one / 262144) (by omega),
    Nat.mod_eq_of_lt (a := other / 262144) (by omega)]
  omega

/-- The encodings of two characters differ in a place where the smaller has the smaller byte. -/
theorem utf8EncodeChar_append_lt
    {one other : Char}
    (before : one < other)
    (rest otherRest : List UInt8) :
    String.utf8EncodeChar one ++ rest < String.utf8EncodeChar other ++ otherRest := by
  have smaller : one.val.toNat < other.val.toNat := before
  have bound : other.val.toNat < 1114112 := by
    rcases other.valid with low | high
    · exact Nat.lt_trans low (by decide)
    · exact high.2
  have digits := digits_lt_of_lt smaller (Nat.lt_trans bound (by decide))
  simp only [String.utf8EncodeChar]
  generalize one.val.toNat = first at *
  generalize other.val.toNat = second at *
  have byte (value : Nat) (small : value < 256) : (UInt8.ofNat value).toNat = value := by
    rw [UInt8.toNat_ofNat', Nat.mod_eq_of_lt small]
  -- One case for each pair of lengths; the bytes of a longer encoding start higher.
  split_ifs <;>
    simp (disch := omega) only [List.cons_append, List.cons_lt_cons_iff, UInt8.lt_iff_toNat_lt,
      ← UInt8.toNat_inj, byte] <;>
    omega

theorem lt_flatMap_utf8EncodeChar
    {one other : List Char}
    (before : one < other) :
    one.flatMap String.utf8EncodeChar < other.flatMap String.utf8EncodeChar := by
  induction one generalizing other with
  | nil =>
    cases other with
    | nil => exact absurd before (List.lt_irrefl _)
    | cons first rest =>
      rw [List.flatMap_nil, List.flatMap_cons]
      cases encoded : String.utf8EncodeChar first with
      | nil => exact absurd encoded String.utf8EncodeChar_ne_nil
      | cons byte bytes => exact List.nil_lt_cons _ _
  | cons first rest induction =>
    cases other with
    | nil => exact absurd before (List.not_lt_nil _)
    | cons otherFirst otherRest =>
      rw [List.flatMap_cons, List.flatMap_cons]
      rcases List.cons_lt_cons_iff.mp before with smaller | ⟨rfl, later⟩
      · exact utf8EncodeChar_append_lt smaller _ _
      · exact List.append_left_lt (induction later)

/-- Texts are ordered by their bytes. -/
theorem utf8Bytes_lt_iff
    {one other : String} :
    utf8Bytes one < utf8Bytes other ↔ one < other := by
  have increasing {one other : String} (before : one < other) :
      utf8Bytes one < utf8Bytes other := by
    rw [utf8Bytes_eq_flatMap, utf8Bytes_eq_flatMap]
    exact lt_flatMap_utf8EncodeChar (String.lt_iff_toList_lt.mp before)
  refine ⟨fun before => ?_, increasing⟩
  rcases lt_trichotomy one other with smaller | rfl | larger
  · exact smaller
  · exact absurd before (List.lt_irrefl _)
  · exact absurd (increasing larger) (List.lt_asymm before)

end SemanticIndex
