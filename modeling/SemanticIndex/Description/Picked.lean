import SemanticIndex.Description.Basic
import SemanticIndex.Manifest.Basic

/-!
# Picked models

A picked model is what a generator learns of a selected model: its name, its physical columns
with their types, and the description and display name of each.  Descriptions are kept only for
picked models and their columns.
-/

namespace SemanticIndex

/-- The properties that a generator learns. -/
structure PickedProperties where
  description : String
  displayName : String
deriving DecidableEq, Inhabited

/-- The text of a string property, empty for all others. -/
def stringProperty (properties : Option Properties) (key : String) : String :=
  ((properties.bind (·.get? key)).bind Json.text?).getD ""

namespace PickedProperties

/-- The properties that a generator learns of a model or column. -/
def ofProperties (properties : Option Properties) : PickedProperties where
  description := stringProperty properties "description"
  displayName := stringProperty properties "displayName"

/-- The JSON form of picked properties. -/
def toJson (properties : PickedProperties) : Json :=
  .object [("description", .string properties.description),
    ("alias", .string properties.displayName)]

end PickedProperties

/-- A column as a generator sees it. -/
structure PickedColumn where
  name : String
  type : String
  properties : PickedProperties
deriving DecidableEq, Inhabited

namespace PickedColumn

/-- A column as a generator sees it. -/
def ofColumn (column : Column) : PickedColumn :=
  ⟨column.name, column.type, .ofProperties column.properties⟩

/-- The JSON form of a picked column. -/
def toJson (column : PickedColumn) : Json :=
  .object [("name", .string column.name), ("type", .string column.type),
    ("properties", column.properties.toJson)]

end PickedColumn

/-- A model as a generator sees it. -/
structure PickedModel where
  name : String
  columns : List PickedColumn
  properties : PickedProperties
deriving DecidableEq, Inhabited

namespace PickedModel

/-- A model as a generator sees it. -/
def ofModel (model : Model) : PickedModel :=
  ⟨model.name, model.physicalColumns.map .ofColumn, .ofProperties model.properties⟩

/-- The JSON form of a picked model. -/
def toJson (model : PickedModel) : Json :=
  .object [("name", .string model.name), ("columns", .array (model.columns.map (·.toJson))),
    ("properties", model.properties.toJson)]

end PickedModel

/-- The models of the selected names, in the order of the manifest. -/
def Manifest.pick (manifest : Manifest) (selected : List String) : List PickedModel :=
  (manifest.models.filter fun model => selected.contains model.name).map .ofModel

/-- The JSON text of picked models. -/
def pickedText (picked : List PickedModel) : String :=
  (Json.array (picked.map (·.toJson))).compact

/-- Keep the descriptions of picked models, and of their columns the picked ones. -/
def Descriptions.restrict
    (descriptions : Descriptions)
    (picked : List PickedModel) : Descriptions :=
  descriptions.filterMap fun name description =>
    (picked.find? (·.name = name)).map fun model =>
      { description with
        columns := description.columns.filter fun column =>
          model.columns.any (·.name = column.name) }

end SemanticIndex
