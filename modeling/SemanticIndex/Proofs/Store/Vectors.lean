import Mathlib.Algebra.Group.Nat.Defs
import Mathlib.Data.Set.Function
import SemanticIndex.Proofs.Store.Refinement

/-!
# Vectors and their bytes

Storing a vector is a bijection onto the byte strings whose length is a multiple of four.  Each
word is stored as its four digits to the base 256, the lowest first, so that no pattern is changed
on the way.  A row reads back exactly when its bytes are the stored form of a vector.
-/

namespace SemanticIndex

namespace Blob

theorem length_encode (embedding : Embedding) :
    (encode embedding).length = 4 * embedding.length := by
  induction embedding with
  | nil => rfl
  | cons word rest induction =>
    change (bytesOf word ++ encode rest).length = _
    rw [List.length_append, induction, List.length_cons]
    change 4 + 4 * rest.length = _
    omega

/-- Byte strings of this length are the stored forms of vectors. -/
theorem exists_decode?_iff
    {bytes : List UInt8} :
    (∃ embedding, decode? bytes = some embedding) ↔ 4 ∣ bytes.length := by
  constructor
  · rintro ⟨embedding, decoded⟩
    rw [← encode_of_decode? decoded, length_encode]
    exact Nat.dvd_mul_right 4 embedding.length
  · intro whole
    fun_induction decode? bytes with
    | case1 => exact ⟨[], rfl⟩
    | case2 a b c d rest induction =>
      obtain ⟨words, decoded⟩ := induction ((Nat.dvd_add_iff_left (Nat.dvd_refl 4)).mpr whole)
      exact ⟨wordOf a b c d :: words, by rw [decoded, Option.map_some]⟩
    | case3 bytes notEmpty short =>
      -- One, two or three bytes are left over.
      rcases bytes with _ | ⟨a, _ | ⟨b, _ | ⟨c, _ | ⟨d, rest⟩⟩⟩⟩
      · exact absurd rfl notEmpty
      · exact absurd whole (by simp)
      · exact absurd whole (by simp)
      · exact absurd whole (by simp)
      · exact absurd rfl (short a b c d rest)

theorem decode?_eq_none_iff
    {bytes : List UInt8} :
    decode? bytes = none ↔ ¬ 4 ∣ bytes.length := by
  rw [← exists_decode?_iff]
  cases decode? bytes <;> simp

/-- The bytes of a word are its digits to the base 256, the lowest first. -/
theorem getElem?_bytesOf (word : UInt32) (place : Fin 4) :
    (bytesOf word)[(place : Nat)]? = some (UInt8.ofNat (word.toNat / 256 ^ (place : Nat))) := by
  have shifted (places : UInt32) : (word >>> places).toUInt8 =
      UInt8.ofNat (word.toNat / 2 ^ (places.toNat % 32)) := by
    rw [← UInt8.toNat_inj, UInt32.toNat_toUInt8, UInt32.toNat_shiftRight,
      Nat.shiftRight_eq_div_pow, UInt8.toNat_ofNat']
  match place with
  | 0 => exact congrArg some (shifted 0)
  | 1 => exact congrArg some (shifted 8)
  | 2 => exact congrArg some (shifted 16)
  | 3 => exact congrArg some (shifted 24)

theorem getElem?_encode
    (embedding : Embedding)
    (position : Nat)
    (place : Fin 4) :
    (encode embedding)[4 * position + place]? =
      embedding[position]?.map fun word => UInt8.ofNat (word.toNat / 256 ^ (place : Nat)) := by
  induction embedding generalizing position with
  | nil => rfl
  | cons word rest induction =>
    change (bytesOf word ++ encode rest)[4 * position + place]? = _
    have four : (bytesOf word).length = 4 := rfl
    cases position with
    | zero =>
      rw [List.getElem?_append_left (by omega), Nat.mul_zero, Nat.zero_add, getElem?_bytesOf]
      rfl
    | succ position =>
      rw [List.getElem?_append_right (by omega), four, List.getElem?_cons_succ, ← induction]
      congr 1
      omega

theorem bijOn_encode : Set.BijOn encode Set.univ {bytes | 4 ∣ bytes.length} := by
  refine ⟨?_, ?_, ?_⟩
  · intro embedding _
    exact exists_decode?_iff.mp ⟨embedding, decode?_encode embedding⟩
  · intro one _ other _ same
    have decoded := congrArg decode? same
    rw [decode?_encode, decode?_encode] at decoded
    exact Option.some.inj decoded
  · intro bytes whole
    obtain ⟨embedding, decoded⟩ := exists_decode?_iff.mpr whole
    exact ⟨embedding, Set.mem_univ embedding, encode_of_decode? decoded⟩

end Blob

/-! ## Rows -/

namespace Row

variable {row : Row} {id : String}

theorem decode_eq_error_iff
    {error : Error} :
    row.decode id = .error error ↔
      ¬ 4 ∣ row.blob.length ∧ error = .store (.damagedEmbedding id row.blob.length) := by
  rw [← Blob.decode?_eq_none_iff, decode]
  cases Blob.decode? row.blob <;> simp [eq_comm]

theorem exists_decode_iff :
    (∃ document, row.decode id = .ok document) ↔ 4 ∣ row.blob.length := by
  rw [← Blob.exists_decode?_iff, decode]
  cases Blob.decode? row.blob <;> simp

/--
Storing is a bijection from the vectors of words onto the byte strings whose length is a multiple
of four, and byte `4 * n + k` is digit `k` of word `n` to the base 256.  So every stored document is
read back as it was, whatever its patterns are; bytes are read exactly when they have such a
length, and they are then the stored form of what is read.
-/
theorem decode_inverts_storing :
    Set.BijOn Blob.encode Set.univ {bytes | 4 ∣ bytes.length} ∧
      (∀ (embedding : Embedding) (position : Nat) (place : Fin 4),
        (Blob.encode embedding)[4 * position + place]? =
          embedding[position]?.map fun word => UInt8.ofNat (word.toNat / 256 ^ (place : Nat))) ∧
      (∀ document, (ofDocument document).decode document.id = .ok document) ∧
      ∀ (row : Row) (id : String),
        ((∃ document, row.decode id = .ok document) ↔ 4 ∣ row.blob.length) ∧
          ∀ document, row.decode id = .ok document ↔
            document.id = id ∧ document.content = row.content ∧
              Blob.encode document.embedding = row.blob := by
  refine ⟨Blob.bijOn_encode, Blob.getElem?_encode, ?_, fun row id => ⟨exists_decode_iff, ?_⟩⟩
  · intro document
    exact decode_eq_ok_iff.mpr ⟨rfl, rfl⟩
  · intro document
    rw [decode_eq_ok_iff]
    cases row
    simp [ofDocument, eq_comm]

/-- A quiet NaN with a payload and the negative zero are stored lowest byte first. -/
example : Blob.encode [0x7fc00001, 0x80000000] = [0x01, 0, 0xc0, 0x7f, 0, 0, 0, 0x80] := by
  decide

end Row

end SemanticIndex
