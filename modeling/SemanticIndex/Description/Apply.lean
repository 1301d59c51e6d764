import SemanticIndex.Description.Basic
import SemanticIndex.Manifest.Basic

/-!
# Applying descriptions

Descriptions are written into the `description` property of the models and columns that they
name, and nothing else of the manifest changes.
-/

namespace SemanticIndex

/-- Set the description among properties. -/
def describeProperties
    (properties : Option Properties)
    (description : String) : Option Properties :=
  some ((properties.getD []).put "description" (.string description))

/-- Set the description of a column that is named among the given ones; the first name counts. -/
def Column.describe (column : Column) (described : List ColumnDescription) : Column :=
  match described.find? (·.name = column.name) with
  | some found =>
    { column with properties := describeProperties column.properties found.description }
  | none => column

/-- Set the descriptions of a model and its columns. -/
def Model.describe (model : Model) (described : ModelDescription) : Model :=
  { model with
    properties := describeProperties model.properties described.description
    columns := model.columns.map (·.describe described.columns) }

namespace Manifest

/-- Set the descriptions of the models that are named. -/
def describe (manifest : Manifest) (descriptions : Descriptions) : Manifest :=
  { manifest with
    models := manifest.models.map fun model =>
      match descriptions.find? model.name with
      | some described => model.describe described
      | none => model }

/-- The number of models that are named. -/
def describedCount (manifest : Manifest) (descriptions : Descriptions) : Nat :=
  manifest.models.countP fun model => (descriptions.find? model.name).isSome

end Manifest

end SemanticIndex
