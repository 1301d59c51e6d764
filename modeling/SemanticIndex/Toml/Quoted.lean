import SemanticIndex.Json.Token

/-!
# TOML strings

The four kinds of strings: basic and literal, on one line or over several.  Each reader starts
behind the opening quotes and returns the text with what follows the closing quotes.
-/

namespace SemanticIndex.Toml

/-- Decide whether a character separates tokens of a line. -/
def isGap (character : Char) : Bool :=
  character == ' ' || character == '\t'

/-- Decide whether a character may stand in a comment or a string. -/
def isPrintable (character : Char) : Bool :=
  character == '\t' || (0x20 ≤ character.toNat && character.toNat != 0x7F)

/-- The character with the code that hexadecimal digits spell, unless it is a surrogate. -/
def spelled? (digits : List Char) : Option Char := do
  let values ← digits.mapM Json.hexDigit?
  let code := values.foldl (fun total value => 16 * total + value) 0
  if code.isValidChar then some (Char.ofNat code) else none

/-- The character that a two-character escape stands for. -/
def escaped? : Char → Option Char
  | '"' => some '"'
  | '\\' => some '\\'
  | 'b' => some '\x08'
  | 'f' => some '\x0c'
  | 'n' => some '\n'
  | 'r' => some '\r'
  | 't' => some '\t'
  | _ => none

/-- Put a character in front of a text that has been read. -/
def prepend (character : Char) (read : List Char × List Char) : List Char × List Char :=
  (character :: read.1, read.2)

/-- Read a basic string on one line. -/
def readBasic? : List Char → Option (List Char × List Char)
  | [] => none
  | '"' :: rest => some ([], rest)
  | '\\' :: 'u' :: a :: b :: c :: d :: rest => do
    let character ← spelled? [a, b, c, d]
    (readBasic? rest).map (prepend character)
  | '\\' :: 'U' :: a :: b :: c :: d :: e :: f :: g :: h :: rest => do
    let character ← spelled? [a, b, c, d, e, f, g, h]
    (readBasic? rest).map (prepend character)
  | '\\' :: mark :: rest => do
    let character ← escaped? mark
    (readBasic? rest).map (prepend character)
  | character :: rest =>
    if isPrintable character then (readBasic? rest).map (prepend character) else none

/-- Read a literal string on one line. -/
def readLiteral? : List Char → Option (List Char × List Char)
  | [] => none
  | '\'' :: rest => some ([], rest)
  | character :: rest =>
    if isPrintable character then (readLiteral? rest).map (prepend character) else none

/-- Close a string over several lines; up to two more quotes still belong to it. -/
def closeLines (quote : Char) (rest : List Char) : List Char × List Char :=
  match rest with
  | first :: second :: tail =>
    if first == quote && second == quote then ([quote, quote], tail)
    else if first == quote then ([quote], second :: tail)
    else ([], rest)
  | [first] => if first == quote then ([quote], []) else ([], rest)
  | [] => ([], [])

/-- Decide whether a text starts with a line break. -/
def startsLine : List Char → Bool
  | '\n' :: _ => true
  | '\r' :: '\n' :: _ => true
  | _ => false

/--
Read a basic string over several lines; `joining` holds behind a backslash at the end of a line,
where blanks and line breaks are left out.
-/
def readBasicLines? (joining : Bool) : List Char → Option (List Char × List Char)
  | [] => none
  | '"' :: '"' :: '"' :: rest => some (closeLines '"' rest)
  | '\r' :: '\n' :: rest =>
    if joining then readBasicLines? true rest
    else (readBasicLines? false rest).map (prepend '\n')
  | '\n' :: rest =>
    if joining then readBasicLines? true rest
    else (readBasicLines? false rest).map (prepend '\n')
  | '\\' :: 'u' :: a :: b :: c :: d :: rest => do
    let character ← spelled? [a, b, c, d]
    (readBasicLines? false rest).map (prepend character)
  | '\\' :: 'U' :: a :: b :: c :: d :: e :: f :: g :: h :: rest => do
    let character ← spelled? [a, b, c, d, e, f, g, h]
    (readBasicLines? false rest).map (prepend character)
  | '\\' :: mark :: rest =>
    if startsLine ((mark :: rest).dropWhile isGap) then readBasicLines? true (mark :: rest)
    else do
      let character ← escaped? mark
      (readBasicLines? false rest).map (prepend character)
  | character :: rest =>
    if joining && isGap character then readBasicLines? true rest
    else if isPrintable character then (readBasicLines? false rest).map (prepend character)
    else none

/-- Read a literal string over several lines. -/
def readLiteralLines? : List Char → Option (List Char × List Char)
  | [] => none
  | '\'' :: '\'' :: '\'' :: rest => some (closeLines '\'' rest)
  | '\r' :: '\n' :: rest => (readLiteralLines? rest).map (prepend '\n')
  | '\n' :: rest => (readLiteralLines? rest).map (prepend '\n')
  | character :: rest =>
    if isPrintable character then (readLiteralLines? rest).map (prepend character) else none

/-- Leave out a line break at the start of a text. -/
def dropLine : List Char → List Char
  | '\n' :: rest => rest
  | '\r' :: '\n' :: rest => rest
  | rest => rest

/-- Read a string of any kind. -/
def readString? : List Char → Option (List Char × List Char)
  | '"' :: '"' :: '"' :: rest => readBasicLines? false (dropLine rest)
  | '\'' :: '\'' :: '\'' :: rest => readLiteralLines? (dropLine rest)
  | '"' :: rest => readBasic? rest
  | '\'' :: rest => readLiteral? rest
  | _ => none

end SemanticIndex.Toml
