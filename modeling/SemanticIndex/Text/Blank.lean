/-!
# Blank characters, trimming and words

Blank characters are those of the Unicode `White_Space` property.  Text is handled as a list of
characters: `trim` removes the blanks at both ends, and `words` cuts a text into its maximal
runs of other characters.
-/

namespace SemanticIndex.Text

/-- Decide the Unicode `White_Space` property. -/
def isBlank (character : Char) : Bool :=
  let code := character.toNat
  (0x09 ≤ code && code ≤ 0x0D) || code == 0x20 || code == 0x85 || code == 0xA0 ||
    code == 0x1680 || (0x2000 ≤ code && code ≤ 0x200A) || code == 0x2028 || code == 0x2029 ||
    code == 0x202F || code == 0x205F || code == 0x3000

/-- Remove the blanks at both ends of a list of characters. -/
def trim (characters : List Char) : List Char :=
  ((characters.dropWhile isBlank).reverse.dropWhile isBlank).reverse

/-- Cut a list of characters at its blanks; no word is empty. -/
def words : List Char → List (List Char)
  | [] => []
  | character :: rest =>
    if isBlank character then words rest
    else
      match rest, words rest with
      | next :: _, first :: others =>
        if isBlank next then [character] :: first :: others
        else (character :: first) :: others
      | _, found => [character] :: found

/-- Replace every maximal run of blanks inside a text by one space and drop those at its ends. -/
def collapse (characters : List Char) : List Char :=
  List.intercalate [' '] (words characters)

end SemanticIndex.Text
