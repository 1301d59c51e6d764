import SemanticIndex.Json.Reader
import SemanticIndex.Manifest.Basic
import SemanticIndex.Manifest.Shape

/-!
# Reading manifests

`normalize` reads a text as a JSON object and supplies the sections that are absent or null.
`validate` goes on to check the shape of the object and then takes its meaning.  The meaning is
defined for all objects: a part that does not have its shape reads as if it were absent, but
`validate` takes the meaning only of objects that have theirs.
-/

namespace SemanticIndex

namespace Fields

/-- The string under a key, empty if there is none. -/
def text (fields : Properties) (key : String) : String :=
  ((fields.get? key).bind Json.text?).getD ""

/-- The string under a key, if there is one. -/
def text? (fields : Properties) (key : String) : Option String :=
  (fields.get? key).bind Json.text?

/-- The truth value under a key, if there is one. -/
def bool? (fields : Properties) (key : String) : Option Bool :=
  (fields.get? key).bind Json.bool?

/-- The object under a key, if there is one. -/
def object? (fields : Properties) (key : String) : Option Properties :=
  (fields.get? key).bind Json.fields?

/-- The objects in the array under a key. -/
def objects (fields : Properties) (key : String) : List Properties :=
  (((fields.get? key).bind Json.elements?).getD []).filterMap Json.fields?

/-- The strings in the array under a key. -/
def texts (fields : Properties) (key : String) : List String :=
  (((fields.get? key).bind Json.elements?).getD []).filterMap Json.text?

end Fields

/-- The column that an object describes. -/
def Column.ofFields (fields : Properties) : Column where
  name := fields.text "name"
  type := fields.text "type"
  properties := fields.object? "properties"
  relationship := fields.text? "relationship"
  expression := fields.text? "expression"
  isCalculated := fields.bool? "isCalculated"
  extra := fields.without
    ["name", "type", "properties", "relationship", "expression", "isCalculated"]

/-- The model that an object describes. -/
def Model.ofFields (fields : Properties) : Model where
  name := fields.text "name"
  properties := fields.object? "properties"
  columns := (fields.objects "columns").map Column.ofFields
  primaryKey := fields.text? "primaryKey"
  extra := fields.without ["name", "properties", "columns", "primaryKey"]

/-- The relationship that an object describes. -/
def Relationship.ofFields (fields : Properties) : Relationship where
  name := fields.text "name"
  first := ((fields.texts "models")[0]?).getD ""
  second := ((fields.texts "models")[1]?).getD ""
  joinType := JoinType.ofTag (fields.text "joinType")
  condition := fields.text "condition"
  extra := fields.without ["name", "models", "joinType", "condition"]

/-- The dimension or measure that an object describes. -/
def MetricColumn.ofFields (fields : Properties) : MetricColumn where
  name := fields.text "name"
  type := fields.text "type"
  expression := fields.text? "expression"
  extra := fields.without ["name", "type", "expression"]

/-- The metric that an object describes. -/
def Metric.ofFields (fields : Properties) : Metric where
  name := fields.text "name"
  baseObject := fields.text "baseObject"
  dimension := (fields.objects "dimension").map MetricColumn.ofFields
  measure := (fields.objects "measure").map MetricColumn.ofFields
  extra := fields.without ["name", "baseObject", "dimension", "measure"]

/-- The view that an object describes. -/
def View.ofFields (fields : Properties) : View where
  name := fields.text "name"
  statement := fields.text "statement"
  properties := fields.object? "properties"
  extra := fields.without ["name", "statement", "properties"]

namespace Manifest

/-- The sections of a manifest in the order in which absent ones are supplied. -/
def sections : List String :=
  ["models", "views", "relationships", "metrics"]

/-- The manifest that an object describes. -/
def ofFields (fields : Properties) : Manifest where
  models := (fields.objects "models").map Model.ofFields
  relationships := (fields.objects "relationships").map Relationship.ofFields
  metrics := (fields.objects "metrics").map Metric.ofFields
  views := (fields.objects "views").map View.ofFields
  extra := fields.without sections

/-- Supply a section that is absent or null. -/
def supply (fields : Properties) (key : String) : Properties :=
  match fields.get? key with
  | none => fields.put key (.array [])
  | some .null => fields.put key (.array [])
  | some _ => fields

/-- Read a text as a JSON object that has all sections. -/
def normalize (text : String) : Except Error Properties :=
  match Json.read? text with
  | none => .error (.malformedInput .unreadable)
  | some (.object fields) => .ok (sections.foldl supply fields)
  | some _ => .error (.malformedInput .notAnObject)

/-- Read a text as a manifest. -/
def validate (text : String) : Except Error Manifest := do
  let fields ← normalize text
  match Shape.manifestFault fields with
  | some fault => .error (.schema fault)
  | none => .ok (ofFields fields)

end Manifest

end SemanticIndex
