import SemanticIndex.Json.Reader
import SemanticIndex.Json.Writer

/-!
# Written strings read back

Every character of a written string is read as one piece: as itself, or as the unit of UTF-16 that
spells a control.  The pieces of a string have its characters as their text.
-/

namespace SemanticIndex.Json

/-- The piece as which a written character is read. -/
def pieceOf (character : Char) : Piece :=
  if character.toNat < 0x20 ∧ character ∉ ['\x08', '\x0c', '\n', '\r', '\t'] then
    .unit character.toNat
  else .character character

/-- The pieces as which a written string is read. -/
def piecesOf (text : String) : List Piece :=
  text.toList.map pieceOf

theorem hexDigit?_digitChar
    {digit : Nat}
    (small : digit < 16) :
    hexDigit? (Nat.digitChar digit) = some digit := by
  revert digit
  decide

theorem readPieces?_mark
    {mark character : Char}
    (known : escaped? mark = some character)
    (notUnit : mark ≠ 'u')
    (rest : List Char) :
    readPieces? ('\\' :: mark :: rest) =
      (readPieces? rest).map fun read => (.character character :: read.1, read.2) := by
  rw [readPieces?]
  · simp only [known, Option.bind_eq_bind, Option.bind_some]
    rw [Option.map_eq_bind]
    rfl
  · rintro _ _ _ _ _ rfl
    exact absurd rfl notUnit

theorem readPieces?_unit
    {high low : Nat}
    (highSmall : high < 16)
    (lowSmall : low < 16)
    (rest : List Char) :
    readPieces? (['\\', 'u', '0', '0', Nat.digitChar high, Nat.digitChar low] ++ rest) =
      (readPieces? rest).map fun read => (.unit (16 * high + low) :: read.1, read.2) := by
  have zero : hexDigit? '0' = some 0 := rfl
  simp only [List.cons_append, List.nil_append, readPieces?, zero, hexDigit?_digitChar highSmall,
    hexDigit?_digitChar lowSmall, Option.bind_eq_bind, Option.bind_some, Nat.mul_zero,
    Nat.zero_add]
  rw [Option.map_eq_bind]
  rfl

theorem readPieces?_raw
    {character : Char}
    (notQuote : character ≠ '"')
    (notBackslash : character ≠ '\\')
    (notControl : 0x20 ≤ character.toNat)
    (rest : List Char) :
    readPieces? (character :: rest) =
      (readPieces? rest).map fun read => (.character character :: read.1, read.2) := by
  rw [readPieces?]
  · rw [if_neg (Nat.not_lt.mpr notControl), Option.map_eq_bind]
    rfl
  all_goals simp [notQuote, notBackslash]

theorem readPieces?_escape
    (character : Char)
    (rest : List Char) :
    readPieces? (escape character ++ rest) =
      (readPieces? rest).map fun read => (pieceOf character :: read.1, read.2) := by
  unfold escape
  split
  · exact readPieces?_mark rfl (by decide) rest
  · exact readPieces?_mark rfl (by decide) rest
  · exact readPieces?_mark rfl (by decide) rest
  · exact readPieces?_mark rfl (by decide) rest
  · exact readPieces?_mark rfl (by decide) rest
  · exact readPieces?_mark rfl (by decide) rest
  · exact readPieces?_mark rfl (by decide) rest
  · rename_i notQuote notBackslash _ _ _ _ _
    split
    · rename_i control
      rw [readPieces?_unit (by omega) (Nat.mod_lt _ (by decide)), Nat.div_add_mod]
      have piece : pieceOf character = .unit character.toNat := by
        simp_all [pieceOf]
      rw [piece]
    · rename_i notControl
      have piece : pieceOf character = .character character := by
        simp_all [pieceOf]
      rw [piece]
      exact readPieces?_raw notQuote notBackslash (Nat.not_lt.mp notControl) rest

theorem readPieces?_flatMap_escape
    (characters rest : List Char) :
    readPieces? (characters.flatMap escape ++ '"' :: rest) =
      some (characters.map pieceOf, rest) := by
  induction characters with
  | nil => rfl
  | cons first characters induction =>
    rw [List.flatMap_cons, List.append_assoc, readPieces?_escape, induction]
    rfl

theorem pieceText?_unit
    {value : Nat}
    (small : value < 0xD800)
    (rest : List Piece) :
    pieceText? (.unit value :: rest) = (pieceText? rest).map (Char.ofNat value :: ·) := by
  have notHigh : ¬0xD800 ≤ value := Nat.not_le.mpr small
  have notLow : ¬0xDC00 ≤ value := by omega
  rcases rest with _ | ⟨_ | low, rest⟩
  · simp [pieceText?, notHigh]
  · simp [pieceText?, notHigh]
  · simp [pieceText?, notHigh, notLow]

theorem pieceText?_map_pieceOf (characters : List Char) :
    pieceText? (characters.map pieceOf) = some characters := by
  induction characters with
  | nil => rfl
  | cons first characters induction =>
    rw [List.map_cons, pieceOf]
    split
    · rename_i control
      rw [pieceText?_unit (by omega), induction, Option.map_some, Char.ofNat_toNat]
    · rw [pieceText?, induction, Option.map_some]

theorem stringOf?_piecesOf (text : String) : stringOf? (piecesOf text) = some text := by
  rw [stringOf?, piecesOf, pieceText?_map_pieceOf, Option.map_some, String.ofList_toList]

end SemanticIndex.Json
