import SemanticIndex.Error

/-!
# The shape of a manifest

A shape names the first way in which a JSON value departs from it, if there is one.  The members
of an entity are checked in the order of the object's keys; only when all of them fit are the
required keys looked for, in the order of their declaration.
-/

namespace SemanticIndex

/-- A check that names the first departure of a value from a shape. -/
abbrev Shape := Json → Option SchemaError

/-- A key of an entity with the shape of its value. -/
structure Member where
  key : String
  required : Bool
  shape : Shape

namespace Shape

/-- The departure of a value that is of another type than expected. -/
def mismatch (expected : Expected) (value : Json) : Option SchemaError :=
  some (.invalidType (.ofJson value) expected)

def string : Shape
  | .string _ => none
  | value => mismatch .string value

/-- A truth value. -/
def bool : Shape
  | .bool _ => none
  | value => mismatch .bool value

/-- An object of any keys and values. -/
def object : Shape
  | .object _ => none
  | value => mismatch .object value

def optional (shape : Shape) : Shape
  | .null => none
  | value => shape value

/-- An array whose elements all have the given shape. -/
def arrayOf (shape : Shape) : Shape
  | .array elements => elements.findSome? shape
  | value => mismatch .array value

/-- An array of exactly two strings. -/
def pair : Shape
  | .array [] => some (.tooShort 0)
  | .array [first] => (string first).or (some (.tooShort 1))
  | .array (first :: second :: rest) =>
    (string first).or ((string second).or
      (if rest.isEmpty then none else some (.tooLong (rest.length + 2))))
  | value => mismatch .pair value

/-- The first departure among the fields of an entity, in their order. -/
def fieldFault (members : List Member) (fields : Properties) : Option SchemaError :=
  fields.findSome? fun field =>
    (members.find? (·.key == field.1)).bind fun member => member.shape field.2

/-- The first required key that is absent, in the order of declaration. -/
def absence (members : List Member) (fields : Properties) : Option SchemaError :=
  members.findSome? fun member =>
    if member.required && (fields.get? member.key).isNone then some (.missingField member.key)
    else none

/-- An object with the given members; other keys may hold anything. -/
def entity (name : String) (members : List Member) : Shape
  | .object fields => (fieldFault members fields).or (absence members fields)
  | value => mismatch (.entity name) value

def column : Shape :=
  entity "Column" [
    ⟨"name", true, string⟩,
    ⟨"type", false, string⟩,
    ⟨"properties", false, optional object⟩,
    ⟨"relationship", false, optional string⟩,
    ⟨"expression", false, optional string⟩,
    ⟨"isCalculated", false, optional bool⟩]

def model : Shape :=
  entity "Model" [
    ⟨"name", true, string⟩,
    ⟨"properties", false, optional object⟩,
    ⟨"columns", false, arrayOf column⟩,
    ⟨"primaryKey", false, optional string⟩]

def relationship : Shape :=
  entity "Relationship" [
    ⟨"name", false, string⟩,
    ⟨"models", true, pair⟩,
    ⟨"joinType", true, string⟩,
    ⟨"condition", true, string⟩]

/-- The shape of a dimension or measure. -/
def metricColumn : Shape :=
  entity "MetricColumn" [
    ⟨"name", true, string⟩,
    ⟨"type", false, string⟩,
    ⟨"expression", false, optional string⟩]

def metric : Shape :=
  entity "Metric" [
    ⟨"name", true, string⟩,
    ⟨"baseObject", true, string⟩,
    ⟨"dimension", false, arrayOf metricColumn⟩,
    ⟨"measure", false, arrayOf metricColumn⟩]

def view : Shape :=
  entity "View" [
    ⟨"name", true, string⟩,
    ⟨"statement", true, string⟩,
    ⟨"properties", false, optional object⟩]

def manifestMembers : List Member := [
  ⟨"models", false, arrayOf model⟩,
  ⟨"relationships", false, arrayOf relationship⟩,
  ⟨"metrics", false, arrayOf metric⟩,
  ⟨"views", false, arrayOf view⟩]

/-- The first departure of the fields of an object from the shape of a manifest. -/
def manifestFault (fields : Properties) : Option SchemaError :=
  fieldFault manifestMembers fields

end Shape

end SemanticIndex
