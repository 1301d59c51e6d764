import SemanticIndex.Manifest.Basic

/-!
# Writing manifests

The JSON form of a manifest has the interpreted keys first, in a fixed order, and the others
behind them.  Absent optional members are left out, as is the name of an unnamed relationship.
-/

namespace SemanticIndex

/-- A field that is present only with a value. -/
def optionalField
    {value : Type}
    (key : String)
    (toJson : value → Json)
    (member : Option value) : Properties :=
  match member with
  | some present => [(key, toJson present)]
  | none => []

/-- The JSON form of a column. -/
def Column.toJson (column : Column) : Json :=
  .object (
    [("name", .string column.name), ("type", .string column.type)] ++
    optionalField "properties" Json.object column.properties ++
    optionalField "relationship" Json.string column.relationship ++
    optionalField "expression" Json.string column.expression ++
    optionalField "isCalculated" Json.bool column.isCalculated ++
    column.extra)

/-- The JSON form of a model. -/
def Model.toJson (model : Model) : Json :=
  .object (
    [("name", .string model.name)] ++
    optionalField "properties" Json.object model.properties ++
    [("columns", .array (model.columns.map Column.toJson))] ++
    optionalField "primaryKey" Json.string model.primaryKey ++
    model.extra)

/-- The JSON form of a relationship. -/
def Relationship.toJson (relationship : Relationship) : Json :=
  .object (
    (if relationship.name = "" then [] else [("name", .string relationship.name)]) ++
    [("models", .array [.string relationship.first, .string relationship.second]),
      ("joinType", .string relationship.joinType.tag),
      ("condition", .string relationship.condition)] ++
    relationship.extra)

/-- The JSON form of a dimension or measure. -/
def MetricColumn.toJson (column : MetricColumn) : Json :=
  .object (
    [("name", .string column.name), ("type", .string column.type)] ++
    optionalField "expression" Json.string column.expression ++
    column.extra)

/-- The JSON form of a metric. -/
def Metric.toJson (metric : Metric) : Json :=
  .object (
    [("name", .string metric.name),
      ("baseObject", .string metric.baseObject),
      ("dimension", .array (metric.dimension.map MetricColumn.toJson)),
      ("measure", .array (metric.measure.map MetricColumn.toJson))] ++
    metric.extra)

/-- The JSON form of a view. -/
def View.toJson (view : View) : Json :=
  .object (
    [("name", .string view.name), ("statement", .string view.statement)] ++
    optionalField "properties" Json.object view.properties ++
    view.extra)

/-- The JSON form of a manifest. -/
def Manifest.toJson (manifest : Manifest) : Json :=
  .object (
    [("models", .array (manifest.models.map Model.toJson)),
      ("relationships", .array (manifest.relationships.map Relationship.toJson)),
      ("metrics", .array (manifest.metrics.map Metric.toJson)),
      ("views", .array (manifest.views.map View.toJson))] ++
    manifest.extra)

end SemanticIndex
