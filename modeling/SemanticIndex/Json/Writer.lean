import SemanticIndex.Decimal.Shortest
import SemanticIndex.Json.Value

/-!
# Writing JSON

Values are written without spaces by `write`, and over indented lines by `writeLines`.  Strings
escape only quotes, backslashes and controls.  A double is written by its shortest decimal, with a
point from `0.00001` up to below `10 ^ 16` and with an exponent outside of that range.
-/

namespace SemanticIndex.Json

/-- The written form of one character inside a string. -/
def escape (character : Char) : List Char :=
  match character with
  | '"' => ['\\', '"']
  | '\\' => ['\\', '\\']
  | '\x08' => ['\\', 'b']
  | '\x0c' => ['\\', 'f']
  | '\n' => ['\\', 'n']
  | '\r' => ['\\', 'r']
  | '\t' => ['\\', 't']
  | other =>
    if other.toNat < 0x20 then
      ['\\', 'u', '0', '0', Nat.digitChar (other.toNat / 16), Nat.digitChar (other.toNat % 16)]
    else [other]

/-- A string literal. -/
def writeString (text : String) : List Char :=
  '"' :: (text.toList.flatMap escape ++ ['"'])

/-- An integer in decimal digits. -/
def writeInteger (value : Int) : List Char :=
  if value < 0 then '-' :: Nat.toDigits 10 value.natAbs else Nat.toDigits 10 value.natAbs

/-- A positive decimal with the given digits, whose last one counts `10 ^ power`. -/
def writeDecimal (digits : List Char) (power : Int) : List Char :=
  let leading := power + digits.length - 1
  if -5 ≤ leading && leading ≤ 15 then
    if 0 ≤ power then digits ++ List.replicate power.toNat '0' ++ ['.', '0']
    else if 0 ≤ leading then
      digits.take (leading + 1).toNat ++ '.' :: digits.drop (leading + 1).toNat
    else ['0', '.'] ++ List.replicate (-leading - 1).toNat '0' ++ digits
  else
    let point := if digits.length == 1 then [] else '.' :: digits.drop 1
    let sign := if leading < 0 then '-' else '+'
    digits.take 1 ++ point ++ ['e', sign] ++ Nat.toDigits 10 leading.natAbs

/-- A double by its shortest decimal. -/
def writeFraction (value : Binary64) : List Char :=
  let sign := if value.negative then ['-'] else []
  let decimal := value.shortest
  if value.significand == 0 then sign ++ ['0', '.', '0']
  else sign ++ writeDecimal (Nat.toDigits 10 decimal.coefficient) decimal.power

mutual

/-- A value without any space. -/
def write : Json → List Char
  | .null => ['n', 'u', 'l', 'l']
  | .bool true => ['t', 'r', 'u', 'e']
  | .bool false => ['f', 'a', 'l', 's', 'e']
  | .integer value => writeInteger value
  | .fraction value => writeFraction value
  | .string value => writeString value
  | .array [] => ['[', ']']
  | .array (first :: rest) => '[' :: (write first ++ writeElements rest)
  | .object [] => ['{', '}']
  | .object ((key, value) :: rest) =>
    '{' :: (writeString key ++ ':' :: (write value ++ writeFields rest))

/-- The elements of an array after the first, with its end. -/
def writeElements : List Json → List Char
  | [] => [']']
  | element :: rest => ',' :: (write element ++ writeElements rest)

/-- The fields of an object after the first, with its end. -/
def writeFields : List (String × Json) → List Char
  | [] => ['}']
  | (key, value) :: rest =>
    ',' :: (writeString key ++ ':' :: (write value ++ writeFields rest))

end

/-- A line break with the indentation of a nesting level. -/
def lineBreak (level : Nat) : List Char :=
  '\n' :: List.replicate (2 * level) ' '

mutual

/-- A value over lines indented by two spaces for each level. -/
def writeLines (level : Nat) : Json → List Char
  | .array [] => ['[', ']']
  | .array (first :: rest) =>
    '[' :: (lineBreak (level + 1) ++ writeLines (level + 1) first ++ elementLines level rest)
  | .object [] => ['{', '}']
  | .object ((key, value) :: rest) =>
    '{' :: (lineBreak (level + 1) ++ writeString key ++ [':', ' '] ++
      writeLines (level + 1) value ++ fieldLines level rest)
  | other => write other

/-- The lines of an array after its first element, with its end. -/
def elementLines (level : Nat) : List Json → List Char
  | [] => lineBreak level ++ [']']
  | element :: rest =>
    ',' :: (lineBreak (level + 1) ++ writeLines (level + 1) element ++ elementLines level rest)

/-- The lines of an object after its first field, with its end. -/
def fieldLines (level : Nat) : List (String × Json) → List Char
  | [] => lineBreak level ++ ['}']
  | (key, value) :: rest =>
    ',' :: (lineBreak (level + 1) ++ writeString key ++ [':', ' '] ++
      writeLines (level + 1) value ++ fieldLines level rest)

end

/-- The compact text of a value. -/
def compact (value : Json) : String :=
  String.ofList (write value)

/-- The text of a value over indented lines. -/
def indented (value : Json) : String :=
  String.ofList (writeLines 0 value)

end SemanticIndex.Json
