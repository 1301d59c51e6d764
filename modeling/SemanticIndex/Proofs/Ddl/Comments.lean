import SemanticIndex.Description.Apply
import SemanticIndex.Proofs.Ddl.TableKeys
import SemanticIndex.ViewRecord

/-!
# Properties are comments

In a model's block properties appear in two places: in a comment in front of the table and in one
at the start of a column's entry.  Manifests that differ in the properties of models and columns
only therefore compile to the same definitions under other comments, or fail alike.  Descriptions
are such properties.
-/

namespace SemanticIndex

/-! ## Blocks under comments -/

/-- What stands in front of a model's table: nothing or properties in a comment. -/
inductive IsHeader : String → Prop where
  | absent : IsHeader ""
  | present (properties : Properties) :
      IsHeader ("\n/* " ++ propertiesText properties ++ " */\n")

/-- What stands at the start of a column's entry: nothing or properties in a comment line. -/
inductive IsNote : String → Prop where
  | absent : IsNote ""
  | present (properties : Properties) :
      IsNote ("-- " ++ propertiesText properties ++ "\n  ")

/-- The comment lines of a calculated column. -/
def Column.calculation (column : Column) : String :=
  if column.calculated then
    "-- This column is a Calculated Field\n  -- column expression: " ++
      column.expression.getD "" ++ "\n  "
  else ""

/-- A model's block whose comments may show any properties. -/
structure Model.IsBlockUnderComments
    (model : Model)
    (keys : List ForeignKey)
    (text : String) : Prop where
  entries : ∃ header columns,
    IsHeader header ∧
      IsTable text header model.name (columns ++ keys.map ForeignKey.clause) ∧
      List.Forall₂
        (fun column entry => ∃ note, IsNote note ∧
          entry = note ++ (column.calculation ++ column.definition model.key?))
        model.physicalColumns columns

theorem Model.isHeader_header (model : Model) : IsHeader model.header := by
  unfold header
  split
  · exact .present _
  · exact .absent

theorem Column.exists_entry_eq (column : Column) (key : Option String) :
    ∃ note, IsNote note ∧
      column.entry key = note ++ (column.calculation ++ column.definition key) := by
  cases shown : column.properties with
  | none =>
    refine ⟨_, .absent, ?_⟩
    rw [entry, comments, shown]
    exact String.append_assoc ..
  | some properties =>
    refine ⟨_, .present properties, ?_⟩
    rw [entry, comments, shown]
    exact String.append_assoc ..

/-! ## Models and manifests that differ in properties -/

/-- Models with the same name, primary key and definitions of physical columns. -/
structure Model.SameDefinitions (model other : Model) : Prop where
  name : model.name = other.name
  key : model.key? = other.key?
  columns : List.Forall₂
    (fun column otherColumn => column.calculation = otherColumn.calculation ∧
      ∀ key, column.definition key = otherColumn.definition key)
    model.physicalColumns other.physicalColumns

theorem Model.SameDefinitions.refl (model : Model) : model.SameDefinitions model :=
  ⟨rfl, rfl, List.forall₂_same.mpr fun _ _ => ⟨rfl, fun _ => rfl⟩⟩

/-- The table of one model is a block of the other. -/
theorem Model.SameDefinitions.isBlockUnderComments
    {model other : Model}
    (same : model.SameDefinitions other)
    (keys : List ForeignKey) :
    model.IsBlockUnderComments keys (other.table keys) := by
  refine ⟨other.header, other.physicalColumns.map (Column.entry other.key?),
    other.isHeader_header, ?_, ?_⟩
  · rw [same.name]
    rfl
  · rw [List.forall₂_map_right_iff]
    refine same.columns.imp ?_
    rintro column otherColumn ⟨calculation, definition⟩
    rw [calculation, definition, same.key]
    exact otherColumn.exists_entry_eq other.key?

namespace Manifest

/-- Manifests that define the same tables, metrics, views and relationships. -/
structure SameDefinitions (manifest other : Manifest) : Prop where
  models : List.Forall₂ Model.SameDefinitions manifest.models other.models
  relationships : manifest.relationships = other.relationships
  metrics : manifest.metrics = other.metrics
  views : manifest.views = other.views

/--
Two outcomes of compiling: one error, or documents with the same ids that agree behind the models
and have, for each model, two blocks that differ in comments only.
-/
inductive AgreeUnderComments (manifest : Manifest) :
    Except Error (List Document) → Except Error (List Document) → Prop where
  | failed (error : Error) : AgreeUnderComments manifest (.error error) (.error error)
  | compiled
      {documents others : List Document}
      (ids : documents.map Document.id = others.map Document.id)
      (models : ∀ (position : Nat) (model : Model), manifest.models[position]? = some model →
        ∃ document other keys,
          documents[position]? = some document ∧ others[position]? = some other ∧
            manifest.foreignKeys model.name = .ok keys ∧
            model.IsBlockUnderComments keys document.content ∧
            model.IsBlockUnderComments keys other.content)
      (rest : documents.drop manifest.models.length = others.drop manifest.models.length) :
      AgreeUnderComments manifest (.ok documents) (.ok others)

variable {manifest other : Manifest}

theorem SameDefinitions.tableKeys_eq (same : manifest.SameDefinitions other) :
    manifest.tableKeys = other.tableKeys := by
  apply tableKeys_congr ?_ (congrArg joins same.relationships)
  rw [← List.forall₂_eq_eq_eq, List.forall₂_map_left_iff, List.forall₂_map_right_iff]
  exact same.models.imp fun _ _ alike => Prod.ext alike.name alike.key

/-- Manifests that define the same compile alike, but for comments. -/
theorem SameDefinitions.agree (same : manifest.SameDefinitions other) :
    manifest.AgreeUnderComments manifest.compile other.compile := by
  rw [compile_eq_map_tableKeys, compile_eq_map_tableKeys, ← same.tableKeys_eq]
  cases collected : manifest.tableKeys with
  | error error => exact .failed error
  | ok keys =>
    have keyCount := length_of_tableKeys collected
    have modelCount := same.models.length_eq
    have tables : (List.zipWith Model.table manifest.models keys).length =
        manifest.models.length := by simp [keyCount]
    have otherTables : (List.zipWith Model.table other.models keys).length =
        manifest.models.length := by simp [keyCount, modelCount]
    apply AgreeUnderComments.compiled
    · apply Document.map_id_sequence_congr
      simp only [statementsWith, List.length_append, tables, otherTables, same.metrics,
        same.views]
    · intro position model found
      obtain ⟨own, stands, resolved⟩ := getElem?_of_tableKeys collected found
      have within := (List.getElem?_eq_some_iff.mp found).1
      have otherFound := List.getElem?_eq_getElem (modelCount ▸ within)
      have alike := same.models.get within (modelCount ▸ within)
      refine ⟨⟨toString position, model.table own⟩,
        ⟨toString position, other.models[position].table own⟩, own, ?_, ?_, resolved,
        (Model.SameDefinitions.refl model).isBlockUnderComments own, ?_⟩
      · rw [Document.getElem?_sequence, getElem?_statementsWith found stands]
        rfl
      · rw [Document.getElem?_sequence, getElem?_statementsWith otherFound stands]
        rfl
      · obtain ⟨_, rfl⟩ := List.getElem?_eq_some_iff.mp found
        exact Model.SameDefinitions.isBlockUnderComments alike own
    · simp only [statementsWith, List.append_assoc]
      rw [← tables, Document.drop_sequence, tables, ← otherTables, Document.drop_sequence,
        same.metrics, same.views]

end Manifest

/-! ## Descriptions -/

theorem Column.exists_describe_eq (column : Column) (described : List ColumnDescription) :
    ∃ properties, column.describe described = { column with properties := properties } := by
  unfold describe
  split
  · exact ⟨_, rfl⟩
  · exact ⟨column.properties, rfl⟩

theorem Column.isRelationship_describe (column : Column) (described : List ColumnDescription) :
    (column.describe described).isRelationship = column.isRelationship := by
  obtain ⟨_, same⟩ := column.exists_describe_eq described
  rw [same]
  rfl

theorem Model.physicalColumns_describe (model : Model) (described : ModelDescription) :
    (model.describe described).physicalColumns =
      model.physicalColumns.map (·.describe described.columns) := by
  rw [physicalColumns, describe, List.filter_map]
  congr 1
  apply List.filter_congr
  intro column _
  rw [Function.comp_apply, Column.isRelationship_describe]

theorem Model.sameDefinitions_describe (model : Model) (described : ModelDescription) :
    model.SameDefinitions (model.describe described) := by
  refine ⟨rfl, rfl, ?_⟩
  rw [physicalColumns_describe, List.forall₂_map_right_iff, List.forall₂_same]
  intro column _
  obtain ⟨_, same⟩ := column.exists_describe_eq described.columns
  rw [same]
  exact ⟨rfl, fun _ => rfl⟩

namespace Manifest

theorem sameDefinitions_describe (manifest : Manifest) (descriptions : Descriptions) :
    manifest.SameDefinitions (manifest.describe descriptions) := by
  refine ⟨?_, rfl, rfl, rfl⟩
  show List.Forall₂ _ manifest.models (manifest.models.map _)
  rw [List.forall₂_map_right_iff, List.forall₂_same]
  intro model _
  split
  · exact model.sameDefinitions_describe _
  · exact Model.SameDefinitions.refl model

/--
Describing a manifest leaves what its documents define: both manifests fail with one error, or
their documents differ in the property comments of models and columns only.  View records are the
same.
-/
theorem compile_describe (manifest : Manifest) (descriptions : Descriptions) :
    manifest.AgreeUnderComments manifest.compile (manifest.describe descriptions).compile ∧
      viewDocuments (manifest.describe descriptions).views = viewDocuments manifest.views :=
  ⟨(manifest.sameDefinitions_describe descriptions).agree, rfl⟩

end Manifest

end SemanticIndex
