import SemanticIndex.Decimal.Binary64
import SemanticIndex.Json.Fields

/-!
# JSON values

Integers and fractions are kept apart: a number written without point and exponent stays an
integer while it fits 64 bits, every other number is a double.
-/

namespace SemanticIndex

/-- A JSON value with ordered object fields. -/
inductive Json where
  | null
  | bool (value : Bool)
  /-- A number kept as an integer. -/
  | integer (value : Int)
  /-- A number kept as a double. -/
  | fraction (value : Binary64)
  | string (value : String)
  | array (elements : List Json)
  | object (fields : List (String × Json))
deriving Inhabited

/-- The ordered fields of a JSON object. -/
abbrev Properties := Fields Json

namespace Json

def text? : Json → Option String
  | .string value => some value
  | _ => none

def elements? : Json → Option (List Json)
  | .array elements => some elements
  | _ => none

def fields? : Json → Option Properties
  | .object fields => some fields
  | _ => none

/-- The truth value of a boolean. -/
def bool? : Json → Option Bool
  | .bool value => some value
  | _ => none

end Json

end SemanticIndex
