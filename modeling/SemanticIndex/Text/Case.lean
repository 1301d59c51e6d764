import SemanticIndex.Text.CaseTable

/-!
# Letter case

The full case mappings of Unicode.  A capital sigma becomes a final sigma when a cased letter
stands before it and none after it, case-ignorable characters between them not counted.
-/

namespace SemanticIndex.Text

/-- Apply the first range that holds a character. -/
def shiftCase
    (ranges : List CaseRange)
    (character : Char) : Char :=
  let code := character.toNat
  match ranges.find? fun range =>
      range.first ≤ code && code ≤ range.last && (code - range.first) % range.stride == 0 with
  | some range => Char.ofNat (code + range.shift).toNat
  | none => character

/-- The image of one character under a case mapping given by its tables. -/
def mapCase
    (expansions : List (Nat × List Nat))
    (ranges : List CaseRange)
    (character : Char) : List Char :=
  match expansions.lookup character.toNat with
  | some codes => codes.map Char.ofNat
  | none => [shiftCase ranges character]

/-- The lower-case image of a character, its surroundings left out of account. -/
def lowerCharacter (character : Char) : List Char :=
  if character.toNat < 0x80 then [character.toLower]
  else mapCase lowerExpansions lowerRanges character

/-- The upper-case image of a character. -/
def upperCharacter (character : Char) : List Char :=
  if character.toNat < 0x80 then [character.toUpper]
  else mapCase upperExpansions upperRanges character

/-- Decide whether a character is cased and counts in the final-sigma rule. -/
def isCased (character : Char) : Bool :=
  inRanges casedRanges character.toNat

/-- Decide whether the final-sigma rule looks past a character. -/
def isCaseIgnorable (character : Char) : Bool :=
  inRanges ignorableRanges character.toNat

/-- Decide whether the first character that counts is cased. -/
def startsCased (characters : List Char) : Bool :=
  match characters.dropWhile isCaseIgnorable with
  | character :: _ => isCased character
  | [] => false

/-- Lower-case a text whose already mapped part, nearest character first, is `before`. -/
def lowerAfter (before : List Char) : List Char → List Char
  | [] => []
  | character :: rest =>
    let image :=
      if character == 'Σ' then
        if startsCased before && !startsCased rest then ['ς'] else ['σ']
      else lowerCharacter character
    image ++ lowerAfter (character :: before) rest

/-- The lower-case image of a text. -/
def lower (characters : List Char) : List Char :=
  lowerAfter [] characters

/-- The upper-case image of a text. -/
def upper (characters : List Char) : List Char :=
  characters.flatMap upperCharacter

end SemanticIndex.Text
