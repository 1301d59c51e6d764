import SemanticIndex.Text.QuoteTable

/-!
# Quoted text

A text between double quotes, as messages show it.  Quotes, backslashes and the usual controls
have two-character escapes; other characters without a shape of their own are spelled by their
code in hexadecimal digits.
-/

namespace SemanticIndex.Text

/-- Decide whether a character stands for itself in quoted text. -/
def isPlain (character : Char) : Bool :=
  let code := character.toNat
  (0x20 ≤ code && code ≤ 0x7E) || (0x7F < code && !inRanges spelledRanges code)

/-- The written form of one character of a quoted text. -/
def quoteCharacter (character : Char) : List Char :=
  match character with
  | '\x00' => ['\\', '0']
  | '\t' => ['\\', 't']
  | '\n' => ['\\', 'n']
  | '\r' => ['\\', 'r']
  | '"' => ['\\', '"']
  | '\\' => ['\\', '\\']
  | other =>
    if isPlain other then [other]
    else ['\\', 'u', '{'] ++ Nat.toDigits 16 other.toNat ++ ['}']

/-- A text between double quotes. -/
def quoted (text : String) : String :=
  String.ofList (['"'] ++ text.toList.flatMap quoteCharacter ++ ['"'])

end SemanticIndex.Text
