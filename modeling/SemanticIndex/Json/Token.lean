import SemanticIndex.Json.Numeral

/-!
# JSON tokens

`tokens?` cuts a text into tokens, skipping the four JSON space characters.  A string literal
stays a list of pieces, so that a reader may accept its shape without giving it a meaning; the
pieces become text by `pieceText?`, which refuses unpaired surrogates.
-/

namespace SemanticIndex.Json

/-- A piece of a string literal: a character, or a UTF-16 unit spelled by four digits. -/
inductive Piece where
  /-- A character, raw or by a two-character escape. -/
  | character (value : Char)
  /-- A unit of UTF-16 by its number. -/
  | unit (value : Nat)
deriving DecidableEq, Inhabited

/-- A token of a JSON text. -/
inductive Token where
  | openArray
  | closeArray
  | openObject
  | closeObject
  | colon
  | comma
  | null
  | bool (value : Bool)
  | number (numeral : Numeral)
  | string (pieces : List Piece)
deriving DecidableEq, Inhabited

/-- Decide whether a character may stand between tokens. -/
def isSpace (character : Char) : Bool :=
  character == ' ' || character == '\t' || character == '\n' || character == '\r'

/-- The value of a hexadecimal digit. -/
def hexDigit? (character : Char) : Option Nat :=
  let code := character.toNat
  if 48 ≤ code && code ≤ 57 then some (code - 48)
  else if 97 ≤ code && code ≤ 102 then some (code - 87)
  else if 65 ≤ code && code ≤ 70 then some (code - 55)
  else none

/-- The character that a two-character escape stands for. -/
def escaped? : Char → Option Char
  | '"' => some '"'
  | '\\' => some '\\'
  | '/' => some '/'
  | 'b' => some '\x08'
  | 'f' => some '\x0c'
  | 'n' => some '\n'
  | 'r' => some '\r'
  | 't' => some '\t'
  | _ => none

/-- Read the inside of a string literal up to its closing quote. -/
def readPieces? : List Char → Option (List Piece × List Char)
  | [] => none
  | '"' :: rest => some ([], rest)
  | '\\' :: 'u' :: a :: b :: c :: d :: rest => do
    let unit := 4096 * (← hexDigit? a) + 256 * (← hexDigit? b) + 16 * (← hexDigit? c) +
      (← hexDigit? d)
    let (pieces, rest) ← readPieces? rest
    some (.unit unit :: pieces, rest)
  | '\\' :: mark :: rest => do
    let character ← escaped? mark
    let (pieces, rest) ← readPieces? rest
    some (.character character :: pieces, rest)
  | character :: rest =>
    if character.toNat < 0x20 then none
    else do
      let (pieces, rest) ← readPieces? rest
      some (.character character :: pieces, rest)

/-- The text of the pieces of a string literal; surrogates count only in pairs. -/
def pieceText? : List Piece → Option (List Char)
  | [] => some []
  | .character value :: rest => (pieceText? rest).map (value :: ·)
  | .unit high :: .unit low :: rest =>
    if 0xD800 ≤ high && high ≤ 0xDBFF then
      if 0xDC00 ≤ low && low ≤ 0xDFFF then
        (pieceText? rest).map
          (Char.ofNat (0x10000 + 0x400 * (high - 0xD800) + (low - 0xDC00)) :: ·)
      else none
    else if 0xDC00 ≤ high && high ≤ 0xDFFF then none
    else (pieceText? (.unit low :: rest)).map (Char.ofNat high :: ·)
  | .unit value :: rest =>
    if 0xD800 ≤ value && value ≤ 0xDFFF then none
    else (pieceText? rest).map (Char.ofNat value :: ·)

/-- Decide whether a character belongs to a number literal. -/
def isNumeralCharacter (character : Char) : Bool :=
  character.isDigit || character == '-' || character == '+' || character == '.' ||
    character == 'e' || character == 'E'

/-- The token that is a single character. -/
def mark? : Char → Option Token
  | '[' => some .openArray
  | ']' => some .closeArray
  | '{' => some .openObject
  | '}' => some .closeObject
  | ':' => some .colon
  | ',' => some .comma
  | _ => none

/-- The token of a literal word. -/
def word? : List Char → Option Token
  | ['n', 'u', 'l', 'l'] => some .null
  | ['t', 'r', 'u', 'e'] => some (.bool true)
  | ['f', 'a', 'l', 's', 'e'] => some (.bool false)
  | _ => none

/-- Read one token at the start of a text that does not start with a space. -/
def token? (characters : List Char) : Option (Token × List Char) :=
  match characters with
  | [] => none
  | '"' :: rest => do
    let (pieces, rest) ← readPieces? rest
    some (.string pieces, rest)
  | character :: rest =>
    match mark? character with
    | some token => some (token, rest)
    | none =>
      if character.isDigit || character == '-' then do
        let numeral ← Numeral.read? (characters.takeWhile isNumeralCharacter)
        some (.number numeral, characters.dropWhile isNumeralCharacter)
      else do
        let token ← word? (characters.takeWhile Char.isAlpha)
        some (token, characters.dropWhile Char.isAlpha)

theorem length_dropWhile_le
    (keep : Char → Bool)
    (characters : List Char) :
    (characters.dropWhile keep).length ≤ characters.length :=
  (List.dropWhile_sublist keep).length_le

theorem length_readPieces?
    {characters rest : List Char}
    {pieces : List Piece}
    (read : readPieces? characters = some (pieces, rest)) :
    rest.length < characters.length := by
  fun_induction readPieces? characters generalizing pieces rest with
  | case1 => simp at read
  | case2 tail =>
    simp only [Option.some.injEq, Prod.mk.injEq] at read
    simp [← read.2]
  | case3 a b c d tail induction =>
    simp only [Option.bind_eq_bind, Option.bind_eq_some_iff] at read
    obtain ⟨_, _, _, _, _, _, _, _, found, inside, equal⟩ := read
    have shorter := induction inside
    simp only [Option.some.injEq, Prod.mk.injEq] at equal
    rw [← equal.2]
    simp only [List.length_cons]
    omega
  | case4 mark tail _ induction =>
    simp only [Option.bind_eq_bind, Option.bind_eq_some_iff] at read
    obtain ⟨_, _, found, inside, equal⟩ := read
    have shorter := induction inside
    simp only [Option.some.injEq, Prod.mk.injEq] at equal
    rw [← equal.2]
    simp only [List.length_cons]
    omega
  | case5 character tail _ _ _ control => simp at read
  | case6 character tail _ _ _ _ induction =>
    simp only [Option.bind_eq_bind, Option.bind_eq_some_iff] at read
    obtain ⟨found, inside, equal⟩ := read
    have shorter := induction inside
    simp only [Option.some.injEq, Prod.mk.injEq] at equal
    rw [← equal.2]
    simp only [List.length_cons]
    omega

theorem length_token?
    {characters rest : List Char}
    {token : Token}
    (read : token? characters = some (token, rest)) :
    rest.length < characters.length := by
  unfold token? at read
  split at read
  · simp at read
  · rename_i tail
    simp only [Option.bind_eq_bind, Option.bind_eq_some_iff] at read
    obtain ⟨found, inside, equal⟩ := read
    have shorter := length_readPieces? inside
    simp only [Option.some.injEq, Prod.mk.injEq] at equal
    rw [← equal.2]
    simp only [List.length_cons]
    omega
  · rename_i character tail _
    split at read
    · simp only [Option.some.injEq, Prod.mk.injEq] at read
      simp [← read.2]
    · split at read
      · rename_i starts
        simp only [Option.bind_eq_bind, Option.bind_eq_some_iff, Option.some.injEq,
          Prod.mk.injEq] at read
        obtain ⟨_, _, _, equal⟩ := read
        have first : isNumeralCharacter character = true := by
          simp only [Bool.or_eq_true] at starts
          rcases starts with digit | minus
          · simp [isNumeralCharacter, digit]
          · simp [isNumeralCharacter, minus]
        rw [← equal, List.dropWhile_cons, if_pos first]
        have := length_dropWhile_le isNumeralCharacter tail
        simp only [List.length_cons]
        omega
      · simp only [Option.bind_eq_bind, Option.bind_eq_some_iff, Option.some.injEq,
          Prod.mk.injEq] at read
        obtain ⟨_, known, _, equal⟩ := read
        have first : character.isAlpha = true := by
          cases alphabetic : character.isAlpha with
          | true => rfl
          | false => simp [alphabetic, word?] at known
        rw [← equal, List.dropWhile_cons, if_pos first]
        have := length_dropWhile_le Char.isAlpha tail
        simp only [List.length_cons]
        omega

/-- Cut a text into tokens. -/
def tokens? (characters : List Char) : Option (List Token) :=
  match _trimmed : characters.dropWhile isSpace with
  | [] => some []
  | character :: tail =>
    match _read : token? (character :: tail) with
    | none => none
    | some (token, rest) => (tokens? rest).map (token :: ·)
termination_by characters.length
decreasing_by
  have shorter := length_token? _read
  have dropped := length_dropWhile_le isSpace characters
  rw [_trimmed] at dropped
  omega

end SemanticIndex.Json
