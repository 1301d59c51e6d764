import SemanticIndex.Json.Token

/-!
# Written forms

A written form is a JSON text with its shape taken apart and nothing yet decided about its
numbers, strings and repeated keys.  `Form.ofTokens?` reads one token after another and keeps the
arrays and objects that are still open in a list, so it is a fold over the tokens; a limit on
their number bounds the nesting.
-/

namespace SemanticIndex.Json

/-- The shape of a JSON text. -/
inductive Form where
  | null
  | bool (value : Bool)
  | number (numeral : Numeral)
  | string (pieces : List Piece)
  | array (elements : List Form)
  /-- Keyed forms as written, repeated keys included. -/
  | object (fields : List (List Piece × Form))
deriving Inhabited

namespace Form

/-- An array or object whose closing bracket has not been read, with its parts in reverse. -/
inductive Open where
  | array (elements : List Form)
  /-- An open object; its last key waits for a value. -/
  | object (fields : List (List Piece × Form)) (key : List Piece)

/-- What may come next. -/
inductive Expectation where
  | value
  /-- A value, or the end of the array just opened. -/
  | firstElement
  /-- A comma or the end of the array with the given parts. -/
  | nextElement (elements : List Form)
  /-- A key, or the end of the object just opened. -/
  | firstKey
  /-- A key after a comma. -/
  | key (fields : List (List Piece × Form))
  | colon (fields : List (List Piece × Form)) (key : List Piece)
  /-- A comma or the end of the object with the given parts. -/
  | nextKey (fields : List (List Piece × Form))
  | finish (form : Form)

/-- How far a text has been read. -/
structure Progress where
  /-- The open arrays and objects around the current place, innermost first. -/
  around : List Open
  expected : Expectation

/-- Go on after a complete form. -/
def Progress.complete (around : List Open) (form : Form) : Progress :=
  match around with
  | [] => ⟨[], .finish form⟩
  | .array elements :: outer => ⟨outer, .nextElement (form :: elements)⟩
  | .object fields key :: outer => ⟨outer, .nextKey ((key, form) :: fields)⟩

/-- Read a token where a value is expected; `limit` bounds the open arrays and objects. -/
def Progress.value?
    (limit : Option Nat)
    (around : List Open)
    (token : Token) : Option Progress :=
  let fits := limit.all (around.length < ·)
  match token with
  | .null => some (complete around .null)
  | .bool value => some (complete around (.bool value))
  | .number numeral => some (complete around (.number numeral))
  | .string pieces => some (complete around (.string pieces))
  | .openArray => if fits then some ⟨around, .firstElement⟩ else none
  | .openObject => if fits then some ⟨around, .firstKey⟩ else none
  | _ => none

/-- Read one token. -/
def Progress.step?
    (limit : Option Nat)
    (progress : Progress)
    (token : Token) : Option Progress :=
  let around := progress.around
  match progress.expected, token with
  | .value, token => value? limit around token
  | .firstElement, .closeArray => some (complete around (.array []))
  | .firstElement, token => value? limit (.array [] :: around) token
  | .nextElement elements, .closeArray => some (complete around (.array elements.reverse))
  | .nextElement elements, .comma => some ⟨.array elements :: around, .value⟩
  | .firstKey, .closeObject => some (complete around (.object []))
  | .firstKey, .string pieces => some ⟨around, .colon [] pieces⟩
  | .key fields, .string pieces => some ⟨around, .colon fields pieces⟩
  | .colon fields key, .colon => some ⟨.object fields key :: around, .value⟩
  | .nextKey fields, .closeObject => some (complete around (.object fields.reverse))
  | .nextKey fields, .comma => some ⟨around, .key fields⟩
  | _, _ => none

/-- The form that a sequence of tokens spells, with at most `limit` levels of nesting. -/
def ofTokens?
    (limit : Option Nat)
    (tokens : List Token) : Option Form := do
  let progress ← tokens.foldlM (Progress.step? limit) ⟨[], .value⟩
  match progress.expected with
  | .finish form => some form
  | _ => none

/-- The form of a text, with at most `limit` levels of nesting. -/
def ofText?
    (limit : Option Nat)
    (characters : List Char) : Option Form := do
  ofTokens? limit (← tokens? characters)

end Form

end SemanticIndex.Json
