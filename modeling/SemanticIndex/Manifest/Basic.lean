import SemanticIndex.Json.Writer
import SemanticIndex.Text.Blank

/-!
# Manifests

A manifest describes the semantic layer over a database: models with columns, relationships
between models, metrics and views.  Keys that are not interpreted are kept, in order, as `extra`
fields, so that a manifest can be written back without loss.
-/

namespace SemanticIndex

/-- Cardinality and direction of a relationship. -/
inductive JoinType where
  /-- Many rows of the first model belong to one of the second. -/
  | manyToOne
  /-- One row of the first model has many of the second. -/
  | oneToMany
  /-- Rows belong together in pairs. -/
  | oneToOne
  /-- Any other tag, kept as written. -/
  | other (tag : String)
deriving DecidableEq, Inhabited

namespace JoinType

/-- Read a tag; the known ones are recognised in any ASCII case and between blanks. -/
def ofTag (tag : String) : JoinType :=
  let known := String.ofList ((Text.trim tag.toList).map Char.toUpper)
  if known = "MANY_TO_ONE" then .manyToOne
  else if known = "ONE_TO_MANY" then .oneToMany
  else if known = "ONE_TO_ONE" then .oneToOne
  else .other tag

/-- The canonical spelling of a join type. -/
def tag : JoinType → String
  | .manyToOne => "MANY_TO_ONE"
  | .oneToMany => "ONE_TO_MANY"
  | .oneToOne => "ONE_TO_ONE"
  | .other tag => tag

end JoinType

/-- A column of a model. -/
structure Column where
  name : String
  /-- The declared type, possibly empty. -/
  type : String
  properties : Option Properties
  /-- The relationship that the column navigates, if any. -/
  relationship : Option String
  expression : Option String
  /-- Whether the column is calculated, if declared. -/
  isCalculated : Option Bool
  /-- The fields that are not interpreted. -/
  extra : Properties
deriving Inhabited

namespace Column

/-- Decide whether a column only points along a relationship. -/
def isRelationship (column : Column) : Bool :=
  column.relationship.isSome

/-- Decide whether a column is calculated; undeclared columns are not. -/
def calculated (column : Column) : Bool :=
  column.isCalculated.getD false

end Column

/-- A table-like entity. -/
structure Model where
  name : String
  properties : Option Properties
  columns : List Column
  /-- The declared primary key, possibly empty. -/
  primaryKey : Option String
  extra : Properties
deriving Inhabited

namespace Model

/-- The primary key of a model; an empty one counts as undeclared. -/
def key? (model : Model) : Option String :=
  model.primaryKey.filter (· != "")

/-- The columns that hold data of their own. -/
def physicalColumns (model : Model) : List Column :=
  model.columns.filter (!·.isRelationship)

end Model

/-- A typed join between two models. -/
structure Relationship where
  /-- The name, possibly empty. -/
  name : String
  /-- The first model; the left side of the condition refers to it. -/
  first : String
  /-- The second model; the right side of the condition refers to it. -/
  second : String
  joinType : JoinType
  condition : String
  extra : Properties
deriving Inhabited

/-- What messages call a relationship: its name, or its condition when it has none. -/
def Relationship.label (relationship : Relationship) : String :=
  if relationship.name = "" then relationship.condition else relationship.name

/-- A dimension or measure of a metric. -/
structure MetricColumn where
  name : String
  /-- The declared type, possibly empty. -/
  type : String
  expression : Option String
  extra : Properties
deriving Inhabited

/-- An aggregate over a base object. -/
structure Metric where
  name : String
  baseObject : String
  dimension : List MetricColumn
  measure : List MetricColumn
  extra : Properties
deriving Inhabited

/-- A stored statement, possibly with the question that it answers. -/
structure View where
  name : String
  statement : String
  properties : Option Properties
  extra : Properties
deriving Inhabited

/-- The text of a view's property: strings as they are, absent and null ones empty. -/
def View.propertyText (view : View) (key : String) : String :=
  match view.properties.bind (·.get? key) with
  | some (.string text) => text
  | some .null => ""
  | none => ""
  | some other => other.compact

/-- The description of a semantic layer. -/
structure Manifest where
  models : List Model
  relationships : List Relationship
  metrics : List Metric
  views : List View
  extra : Properties
deriving Inhabited

end SemanticIndex
