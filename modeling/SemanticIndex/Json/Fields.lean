/-!
# Ordered fields

The fields of an object are pairs of a key and a value in the order of their first appearance.
Putting a value under a present key keeps its place; a new key goes to the end.
-/

namespace SemanticIndex

/-- Keyed values in order of first appearance. -/
abbrev Fields (value : Type) := List (String × value)

namespace Fields

variable {value : Type}

/-- The value under a key. -/
def get? (fields : Fields value) (key : String) : Option value :=
  match fields with
  | [] => none
  | (candidate, found) :: rest => if candidate = key then some found else get? rest key

/-- Set the value under a key, in place or at the end. -/
def put (fields : Fields value) (key : String) (new : value) : Fields value :=
  match fields with
  | [] => [(key, new)]
  | (candidate, old) :: rest =>
    if candidate = key then (key, new) :: rest else (candidate, old) :: put rest key new

/-- The keys in order. -/
def keys (fields : Fields value) : List String :=
  fields.map Prod.fst

/-- Keep the fields whose keys are not listed. -/
def without (fields : Fields value) (known : List String) : Fields value :=
  fields.filter fun field => !known.contains field.1

end Fields

end SemanticIndex
