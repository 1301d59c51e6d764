import SemanticIndex.Document
import SemanticIndex.ForeignKey.Resolution

/-!
# Table definitions

A manifest compiles to one statement for each model, metric and view, in this order.  A model's
statement has an entry for each physical column and then one for each foreign key; properties,
expressions and the base of a metric appear only in comments.
-/

namespace SemanticIndex

/-- The JSON text of properties. -/
def propertiesText (properties : Properties) : String :=
  (Json.object properties).compact

/-- A table definition with the given entries behind a leading comment. -/
def createTable (header name : String) (entries : List String) : String :=
  header ++ "CREATE TABLE " ++ name ++ " (\n  " ++ String.intercalate ",\n  " entries ++ "\n);"

/-- The comments in front of a column's definition. -/
def Column.comments (column : Column) : String :=
  let properties :=
    match column.properties with
    | some properties => "-- " ++ propertiesText properties ++ "\n  "
    | none => ""
  let calculation :=
    if column.calculated then
      "-- This column is a Calculated Field\n  -- column expression: " ++
        column.expression.getD "" ++ "\n  "
    else ""
  properties ++ calculation

/-- The definition of a column in a table with the given primary key. -/
def Column.definition (column : Column) (primaryKey : Option String) : String :=
  column.name ++ " " ++ column.type ++
    (if primaryKey = some column.name then " PRIMARY KEY" else "")

/-- The entry of a column in a table with the given primary key. -/
def Column.entry (primaryKey : Option String) (column : Column) : String :=
  column.comments ++ column.definition primaryKey

/-- The comment in front of a model's table; empty properties have none. -/
def Model.header (model : Model) : String :=
  match model.properties with
  | some (first :: rest) => "\n/* " ++ propertiesText (first :: rest) ++ " */\n"
  | _ => ""

/-- The table definition of a model with the given foreign keys. -/
def Model.table (model : Model) (keys : List ForeignKey) : String :=
  createTable model.header model.name
    (model.physicalColumns.map (Column.entry model.key?) ++ keys.map ForeignKey.clause)

def MetricColumn.dimensionEntry (column : MetricColumn) : String :=
  "-- This column is a dimension\n  " ++ column.name ++ " " ++ column.type

def MetricColumn.measureEntry (column : MetricColumn) : String :=
  "-- This column is a measure\n  -- expression: " ++ column.expression.getD "" ++ "\n  " ++
    column.name ++ " " ++ column.type

/-- The table definition of a metric. -/
def Metric.table (metric : Metric) : String :=
  createTable
    ("\n/* This table is a metric */\n/* Metric Base Object: " ++ metric.baseObject ++ " */\n")
    metric.name
    (metric.dimension.map MetricColumn.dimensionEntry ++
      metric.measure.map MetricColumn.measureEntry)

def View.definition (view : View) : String :=
  "/* " ++ (view.properties.map propertiesText).getD "" ++ " */\nCREATE VIEW " ++ view.name ++
    "\nAS (" ++ view.statement ++ ")"

namespace Manifest

/-- The table definition of a model of a manifest. -/
def modelTable (manifest : Manifest) (model : Model) : Except Error String := do
  let keys ← manifest.foreignKeys model.name
  return model.table keys

/-- The statements that a manifest compiles to, in emission order. -/
def statements (manifest : Manifest) : Except Error (List String) := do
  let tables ← manifest.models.mapM manifest.modelTable
  return tables ++ manifest.metrics.map Metric.table ++ manifest.views.map View.definition

/-- The numbered documents that a manifest compiles to. -/
def compile (manifest : Manifest) : Except Error (List Document) := do
  let statements ← manifest.statements
  return Document.sequence statements

end Manifest

end SemanticIndex
