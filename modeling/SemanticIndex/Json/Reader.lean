import SemanticIndex.Json.Form

/-!
# Reading JSON

A text is read by taking its form apart and giving a value to every part.  It is refused when a
number lies beyond the range of doubles, a surrogate is unpaired or more than 127 arrays and
objects are nested.  A repeated key keeps its first place and takes its last value.
-/

namespace SemanticIndex.Json

/-- The greatest number of nested arrays and objects. -/
def nestingLimit : Nat := 127

/-- The text of the pieces of a string literal. -/
def stringOf? (pieces : List Piece) : Option String :=
  (pieceText? pieces).map String.ofList

mutual

def ofForm? : Form → Option Json
  | .null => some .null
  | .bool value => some (.bool value)
  | .number numeral => numeral.value?
  | .string pieces => (stringOf? pieces).map Json.string
  | .array elements => (ofForms? elements).map Json.array
  | .object fields => (ofFields? [] fields).map Json.object

def ofForms? : List Form → Option (List Json)
  | [] => some []
  | form :: rest => do
    let value ← ofForm? form
    let values ← ofForms? rest
    some (value :: values)

/-- Add keyed forms to the fields read before them. -/
def ofFields? (before : Properties) : List (List Piece × Form) → Option Properties
  | [] => some before
  | (pieces, form) :: rest => do
    let key ← stringOf? pieces
    let value ← ofForm? form
    ofFields? (before.put key value) rest

end

def read? (text : String) : Option Json := do
  ofForm? (← Form.ofText? (some nestingLimit) text.toList)

end SemanticIndex.Json
