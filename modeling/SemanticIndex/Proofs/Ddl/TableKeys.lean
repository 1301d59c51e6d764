import SemanticIndex.Proofs.Ddl.Emission
import SemanticIndex.Proofs.ForeignKey.Dependence

/-!
# Keys before texts

A manifest compiles in two stages.  The foreign keys of all tables are collected first, and this
stage alone can fail; then every block is written.  Two manifests whose tables have the same
foreign keys therefore both compile or both fail, with one error.
-/

namespace SemanticIndex

namespace Manifest

/-- The foreign keys of all tables in the order of the models. -/
def tableKeys (manifest : Manifest) : Except Error (List (List ForeignKey)) :=
  (manifest.models.map Model.name).mapM manifest.foreignKeys

/-- The statements of a manifest whose tables have the given foreign keys. -/
def statementsWith (manifest : Manifest) (keys : List (List ForeignKey)) : List String :=
  List.zipWith Model.table manifest.models keys ++ manifest.metrics.map Metric.table ++
    manifest.views.map View.definition

variable {manifest : Manifest}

/-- Manifests with the same joins, names and primary keys have the same foreign keys. -/
theorem foreignKeys_eq_of_joins
    {other : Manifest}
    (models : manifest.models.map Model.nameAndKey = other.models.map Model.nameAndKey)
    (sameJoins : joins manifest.relationships = joins other.relationships)
    (table : String) :
    manifest.foreignKeys table = other.foreignKeys table := by
  rw [Manifest.foreignKeys, Manifest.foreignKeys, ← foreignKeys_joins, sameJoins,
    foreignKeys_joins, SemanticIndex.foreignKeys_congr models]

theorem tableKeys_congr
    {other : Manifest}
    (models : manifest.models.map Model.nameAndKey = other.models.map Model.nameAndKey)
    (sameJoins : joins manifest.relationships = joins other.relationships) :
    manifest.tableKeys = other.tableKeys := by
  have names : manifest.models.map Model.name = other.models.map Model.name := by
    have first := congrArg (List.map Prod.fst) models
    rw [List.map_map, List.map_map] at first
    exact first
  rw [tableKeys, tableKeys, names]
  exact mapM_congr fun table _ => foreignKeys_eq_of_joins models sameJoins table

theorem mapM_modelTable (manifest : Manifest) (models : List Model) :
    models.mapM manifest.modelTable =
      ((models.map Model.name).mapM manifest.foreignKeys).map
        (List.zipWith Model.table models) := by
  induction models with
  | nil => rfl
  | cons model rest induction =>
    rw [List.map_cons, List.mapM_cons, List.mapM_cons, induction, modelTable]
    cases manifest.foreignKeys model.name with
    | error error => rfl
    | ok own => cases (rest.map Model.name).mapM manifest.foreignKeys <;> rfl

theorem compile_eq_map_tableKeys (manifest : Manifest) :
    manifest.compile =
      manifest.tableKeys.map fun keys => Document.sequence (manifest.statementsWith keys) := by
  rw [compile, statements, mapM_modelTable, tableKeys]
  cases (manifest.models.map Model.name).mapM manifest.foreignKeys <;> rfl

theorem exists_tableKeys_of_compile
    {documents : List Document}
    (compiled : manifest.compile = .ok documents) :
    ∃ keys, manifest.tableKeys = .ok keys ∧
      documents = Document.sequence (manifest.statementsWith keys) := by
  rwa [compile_eq_map_tableKeys, map_eq_ok_iff] at compiled

/-- The keys of each table stand at the position of its model. -/
theorem getElem?_of_tableKeys
    {keys : List (List ForeignKey)}
    (collected : manifest.tableKeys = .ok keys)
    {position : Nat}
    {model : Model}
    (found : manifest.models[position]? = some model) :
    ∃ own, keys[position]? = some own ∧ manifest.foreignKeys model.name = .ok own := by
  apply getElem?_of_mapM_eq_ok collected
  rw [List.getElem?_map, found, Option.map_some]

theorem length_of_tableKeys
    {keys : List (List ForeignKey)}
    (collected : manifest.tableKeys = .ok keys) :
    keys.length = manifest.models.length := by
  rw [length_of_mapM_eq_ok collected, List.length_map]

/-- The statement of a model stands at the position of the model. -/
theorem getElem?_statementsWith
    {keys : List (List ForeignKey)}
    {position : Nat}
    {model : Model}
    {own : List ForeignKey}
    (found : manifest.models[position]? = some model)
    (stands : keys[position]? = some own) :
    (manifest.statementsWith keys)[position]? = some (model.table own) := by
  have tabled :
      (List.zipWith Model.table manifest.models keys)[position]? = some (model.table own) :=
    List.getElem?_zipWith_eq_some.mpr ⟨model, own, found, stands, rfl⟩
  have within := (List.getElem?_eq_some_iff.mp tabled).1
  rw [statementsWith, List.append_assoc, List.getElem?_append_left within, tabled]

end Manifest

end SemanticIndex
