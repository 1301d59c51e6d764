import SemanticIndex.Ddl
import SemanticIndex.Proofs.Collecting

/-!
# What is emitted, and where

The documents of a manifest are its models, metrics and views in this order.  Each kind of block is
described here by its text: what stands around the entries of a table, how many entries there are
and what each of them ends in.  The names and types in a block are those of the manifest, whatever
characters they have.

Emission stops at the first model whose foreign keys cannot be resolved.
-/

namespace SemanticIndex

/-! ## Blocks -/

/-- A table definition with its entries set off by commas. -/
def IsTable (text header name : String) (entries : List String) : Prop :=
  text = header ++ "CREATE TABLE " ++ name ++ " (\n  " ++
    String.intercalate ",\n  " entries ++ "\n);"

/-- A column is marked in the table of a model whose non-empty primary key has its name. -/
def Column.Marked (column : Column) (model : Model) : Prop :=
  model.primaryKey = some column.name ∧ column.name ≠ ""

/-- The entry of a column; only a marked one goes on behind the type. -/
inductive Column.IsEntry (column : Column) (model : Model) : String → Prop where
  | marked
      (marked : column.Marked model) :
      IsEntry column model
        (column.comments ++ (column.name ++ " " ++ column.type ++ " PRIMARY KEY"))
  | plain
      (unmarked : ¬column.Marked model) :
      IsEntry column model (column.comments ++ (column.name ++ " " ++ column.type))

/-- A model's block has an entry for each column that is no relationship and one for each key. -/
structure Model.IsBlock (model : Model) (keys : List ForeignKey) (text : String) : Prop where
  entries : ∃ columns references,
    IsTable text model.header model.name (columns ++ references) ∧
      List.Forall₂ (fun column entry => column.IsEntry model entry)
        (model.columns.filter (·.relationship.isNone)) columns ∧
      List.Forall₂
        (fun key entry => entry = "FOREIGN KEY (" ++ key.column ++ ") REFERENCES " ++
          key.references ++ "(" ++ key.primaryKey ++ ")")
        keys references

/-- A metric's block has an entry for each dimension and then one for each measure. -/
structure Metric.IsBlock (metric : Metric) (text : String) : Prop where
  entries : ∃ dimensions measures,
    IsTable text
        ("\n/* This table is a metric */\n/* Metric Base Object: " ++ metric.baseObject ++ " */\n")
        metric.name (dimensions ++ measures) ∧
      List.Forall₂
        (fun column entry => entry = "-- This column is a dimension\n  " ++ column.name ++ " " ++
          column.type)
        metric.dimension dimensions ∧
      List.Forall₂
        (fun column entry => entry = "-- This column is a measure\n  -- expression: " ++
          column.expression.getD "" ++ "\n  " ++ column.name ++ " " ++ column.type)
        metric.measure measures

/-- A view's block shows its properties, its name and its statement. -/
def View.IsBlock (view : View) (text : String) : Prop :=
  text = "/* " ++ (view.properties.map propertiesText).getD "" ++ " */\nCREATE VIEW " ++
    view.name ++ "\nAS (" ++ view.statement ++ ")"

theorem Column.isEntry_iff
    {column : Column}
    {model : Model}
    {text : String} :
    column.IsEntry model text ↔ text = column.entry model.key? := by
  have marked : model.key? = some column.name ↔ column.Marked model := by
    simp [Model.key?, Column.Marked, Option.filter_eq_some_iff]
  constructor
  · rintro (mark | unmarked)
    · simp [Column.entry, Column.definition, marked.mpr mark]
    · simp [Column.entry, Column.definition, mt marked.mp unmarked]
  · rintro rfl
    by_cases mark : column.Marked model
    · simpa [Column.entry, Column.definition, marked.mpr mark] using IsEntry.marked mark
    · simpa [Column.entry, Column.definition, mt marked.mp mark] using IsEntry.plain mark

/-- Elements stand against their images under a function and nothing else. -/
theorem forall₂_image_iff
    {element image : Type}
    {function : element → image}
    {elements : List element}
    {images : List image} :
    List.Forall₂ (fun element image => image = function element) elements images ↔
      images = elements.map function := by
  induction elements generalizing images with
  | nil => simp
  | cons first rest induction =>
    cases images <;> simp [induction]

theorem Model.isBlock_iff
    {model : Model}
    {keys : List ForeignKey}
    {text : String} :
    model.IsBlock keys text ↔ text = model.table keys := by
  have physical : model.columns.filter (·.relationship.isNone) = model.physicalColumns := by
    simp [Model.physicalColumns, Column.isRelationship]
  constructor
  · rintro ⟨columns, references, isTable, columnEntries, keyEntries⟩
    simp only [Column.isEntry_iff, physical, forall₂_image_iff] at columnEntries keyEntries
    rw [isTable, columnEntries, keyEntries]
    rfl
  · rintro rfl
    refine ⟨_, _, rfl, ?_, ?_⟩
    · simp only [Column.isEntry_iff, physical, forall₂_image_iff]
    · rw [forall₂_image_iff]
      rfl

theorem Metric.isBlock_iff
    {metric : Metric}
    {text : String} :
    metric.IsBlock text ↔ text = metric.table := by
  constructor
  · rintro ⟨dimensions, measures, isTable, dimensionEntries, measureEntries⟩
    rw [forall₂_image_iff] at dimensionEntries measureEntries
    rw [isTable, dimensionEntries, measureEntries]
    rfl
  · rintro rfl
    refine ⟨_, _, rfl, ?_, ?_⟩
    · rw [forall₂_image_iff]
      rfl
    · rw [forall₂_image_iff]
      rfl

/-! ## Documents -/

theorem Document.getElem?_sequence (contents : List String) (position : Nat) :
    (Document.sequence contents)[position]? =
      contents[position]?.map fun content => ⟨toString position, content⟩ :=
  List.getElem?_mapIdx

/-- Ids tell nothing but how many documents there are. -/
theorem Document.map_id_sequence_congr
    {one other : List String}
    (same : one.length = other.length) :
    (sequence one).map Document.id = (sequence other).map Document.id := by
  apply List.ext_getElem
  · simp only [sequence, List.length_map, List.length_mapIdx, same]
  · intro position _ _
    simp only [sequence, List.getElem_map, List.getElem_mapIdx]

theorem Document.drop_sequence (before after : List String) :
    (sequence (before ++ after)).drop before.length =
      after.mapIdx fun position content => ⟨toString (position + before.length), content⟩ := by
  rw [sequence, List.mapIdx_append]
  exact List.drop_left' List.length_mapIdx

namespace Manifest

/-- The documents of a manifest whose foreign keys can all be resolved. -/
structure Emits (manifest : Manifest) (documents : List Document) : Prop where
  count : documents.length =
    manifest.models.length + manifest.metrics.length + manifest.views.length
  ids : ∀ (position : Nat) (document : Document),
    documents[position]? = some document → document.id = toString position
  models : ∀ (position : Nat) (model : Model), manifest.models[position]? = some model →
    ∃ document keys, documents[position]? = some document ∧
      manifest.foreignKeys model.name = .ok keys ∧ model.IsBlock keys document.content
  metrics : ∀ (position : Nat) (metric : Metric), manifest.metrics[position]? = some metric →
    ∃ document, documents[manifest.models.length + position]? = some document ∧
      metric.IsBlock document.content
  views : ∀ (position : Nat) (view : View), manifest.views[position]? = some view →
    ∃ document,
      documents[manifest.models.length + manifest.metrics.length + position]? = some document ∧
        view.IsBlock document.content

variable {manifest : Manifest}

theorem modelTable_eq_ok_iff
    {model : Model}
    {table : String} :
    manifest.modelTable model = .ok table ↔
      ∃ keys, manifest.foreignKeys model.name = .ok keys ∧ table = model.table keys := by
  rw [modelTable]
  cases manifest.foreignKeys model.name <;>
    simp [bind, Except.bind, pure, Except.pure, eq_comm]

theorem modelTable_eq_error_iff
    {model : Model}
    {error : Error} :
    manifest.modelTable model = .error error ↔
      manifest.foreignKeys model.name = .error error := by
  rw [modelTable]
  cases manifest.foreignKeys model.name <;> simp [bind, Except.bind, pure, Except.pure]

theorem compile_eq_ok_iff
    {documents : List Document} :
    manifest.compile = .ok documents ↔
      ∃ tables, manifest.models.mapM manifest.modelTable = .ok tables ∧
        documents = Document.sequence
          (tables ++ manifest.metrics.map Metric.table ++ manifest.views.map View.definition) := by
  rw [compile, statements]
  cases manifest.models.mapM manifest.modelTable <;>
    simp [bind, Except.bind, pure, Except.pure, eq_comm]

theorem compile_eq_error_iff
    {error : Error} :
    manifest.compile = .error error ↔
      manifest.models.mapM manifest.modelTable = .error error := by
  rw [compile, statements]
  cases manifest.models.mapM manifest.modelTable <;>
    simp [bind, Except.bind, pure, Except.pure]

/-- The documents of a success stand where the reference has them. -/
theorem emits_of_compile
    {documents : List Document}
    (compiled : manifest.compile = .ok documents) :
    manifest.Emits documents := by
  rcases compile_eq_ok_iff.mp compiled with ⟨tables, collected, rfl⟩
  have sameLength := length_of_mapM_eq_ok collected
  constructor
  · simp [Document.sequence, sameLength, Nat.add_assoc]
  · intro position document found
    simp only [Document.getElem?_sequence, Option.map_eq_some_iff] at found
    obtain ⟨_, _, rfl⟩ := found
    rfl
  · intro position model found
    rcases getElem?_of_mapM_eq_ok collected found with ⟨table, tabled, resolved⟩
    rcases modelTable_eq_ok_iff.mp resolved with ⟨keys, keyed, rfl⟩
    refine ⟨⟨toString position, model.table keys⟩, keys, ?_, keyed, Model.isBlock_iff.mpr rfl⟩
    have within : position < tables.length := (List.getElem?_eq_some_iff.mp tabled).1
    rw [Document.getElem?_sequence, List.append_assoc, List.getElem?_append_left within, tabled]
    rfl
  · intro position metric found
    have within : position < (manifest.metrics.map Metric.table).length := by
      rw [List.length_map]
      exact (List.getElem?_eq_some_iff.mp found).1
    refine ⟨⟨toString (manifest.models.length + position), metric.table⟩, ?_,
      Metric.isBlock_iff.mpr rfl⟩
    rw [Document.getElem?_sequence, List.append_assoc, ← sameLength,
      List.getElem?_append_right (Nat.le_add_right _ _), Nat.add_sub_cancel_left,
      List.getElem?_append_left within, List.getElem?_map, found]
    rfl
  · intro position view found
    refine ⟨⟨toString (manifest.models.length + manifest.metrics.length + position),
      view.definition⟩, ?_, rfl⟩
    have emitted : tables.length + manifest.metrics.length =
        (tables ++ manifest.metrics.map Metric.table).length := by
      rw [List.length_append, List.length_map]
    rw [Document.getElem?_sequence, ← sameLength, emitted,
      List.getElem?_append_right (Nat.le_add_right _ _), Nat.add_sub_cancel_left,
      List.getElem?_map, found]
    rfl

theorem Emits.resolves
    {documents : List Document}
    (emits : manifest.Emits documents)
    {model : Model}
    (declared : model ∈ manifest.models) :
    ∃ keys, manifest.foreignKeys model.name = .ok keys := by
  rcases List.getElem?_of_mem declared with ⟨position, found⟩
  rcases emits.models position model found with ⟨_, keys, _, resolved, _⟩
  exact ⟨keys, resolved⟩

/-- Documents at one position differ in their contents or not at all. -/
theorem Emits.document_eq
    {otherManifest : Manifest}
    {one other : List Document}
    (first : manifest.Emits one)
    (second : otherManifest.Emits other)
    {position : Nat}
    {document otherDocument : Document}
    (found : one[position]? = some document)
    (otherFound : other[position]? = some otherDocument)
    (content : document.content = otherDocument.content) :
    document = otherDocument :=
  (Document.mk.injEq ..).mpr
    ⟨(first.ids _ _ found).trans (second.ids _ _ otherFound).symm, content⟩

/-- The reference leaves no choice of documents. -/
theorem Emits.unique
    {one other : List Document}
    (first : manifest.Emits one)
    (second : manifest.Emits other) :
    one = other := by
  have sameAt {position : Nat} {document otherDocument : Document}
      (found : one[position]? = some document)
      (otherFound : other[position]? = some otherDocument)
      (content : document.content = otherDocument.content) :
      one[position]? = other[position]? := by
    rw [found, otherFound, first.document_eq second found otherFound content]
  apply List.ext_getElem?
  intro position
  -- A position belongs to a model, a metric or a view, or lies behind all documents.
  rcases Nat.lt_or_ge position manifest.models.length with ofModel | behindModels
  · have declared := List.getElem?_eq_getElem ofModel
    rcases first.models _ _ declared with ⟨document, keys, found, resolved, block⟩
    rcases second.models _ _ declared with ⟨otherDocument, others, otherFound, same, otherBlock⟩
    obtain rfl := Except.ok.inj (resolved.symm.trans same)
    exact sameAt found otherFound
      ((Model.isBlock_iff.mp block).trans (Model.isBlock_iff.mp otherBlock).symm)
  · obtain ⟨place, rfl⟩ := Nat.exists_eq_add_of_le behindModels
    rcases Nat.lt_or_ge place manifest.metrics.length with ofMetric | behindMetrics
    · have declared := List.getElem?_eq_getElem ofMetric
      rcases first.metrics _ _ declared with ⟨document, found, block⟩
      rcases second.metrics _ _ declared with ⟨otherDocument, otherFound, otherBlock⟩
      exact sameAt found otherFound
        ((Metric.isBlock_iff.mp block).trans (Metric.isBlock_iff.mp otherBlock).symm)
    · obtain ⟨rest, rfl⟩ := Nat.exists_eq_add_of_le behindMetrics
      rw [← Nat.add_assoc]
      rcases Nat.lt_or_ge rest manifest.views.length with ofView | behindViews
      · have declared := List.getElem?_eq_getElem ofView
        rcases first.views _ _ declared with ⟨document, found, block⟩
        rcases second.views _ _ declared with ⟨otherDocument, otherFound, otherBlock⟩
        exact sameAt found otherFound (block.trans otherBlock.symm)
      · have oneEnds := first.count
        have otherEnds := second.count
        rw [List.getElem?_eq_none (by omega), List.getElem?_eq_none (by omega)]

/-- Emission fails with the error of the first model whose foreign keys cannot be resolved. -/
theorem compile_eq_error_iff_first
    {error : Error} :
    manifest.compile = .error error ↔
      ∃ before failing after, manifest.models = before ++ failing :: after ∧
        (∀ earlier ∈ before, ∃ keys, manifest.foreignKeys earlier.name = .ok keys) ∧
        manifest.foreignKeys failing.name = .error error := by
  have resolves (model : Model) :
      (∃ table, manifest.modelTable model = .ok table) ↔
        ∃ keys, manifest.foreignKeys model.name = .ok keys := by
    simp only [modelTable_eq_ok_iff]
    constructor
    · rintro ⟨_, keys, resolved, _⟩
      exact ⟨keys, resolved⟩
    · rintro ⟨keys, resolved⟩
      exact ⟨_, keys, resolved, rfl⟩
  rw [compile_eq_error_iff, mapM_eq_error_iff]
  simp only [resolves, modelTable_eq_error_iff]

/--
A manifest compiles to the documents that the reference has, for each model, metric and view one.
There are none exactly when the foreign keys of some model cannot be resolved, and the error is
then that of the first such model.
-/
theorem compile_reference (manifest : Manifest) :
    (∀ documents, manifest.compile = .ok documents ↔ manifest.Emits documents) ∧
    (∀ error, manifest.compile = .error error ↔
      ∃ before failing after, manifest.models = before ++ failing :: after ∧
        (∀ earlier ∈ before, ∃ keys, manifest.foreignKeys earlier.name = .ok keys) ∧
        manifest.foreignKeys failing.name = .error error) ∧
    ((∃ error, manifest.compile = .error error) ↔
      ∃ model ∈ manifest.models, ∃ error, manifest.foreignKeys model.name = .error error) := by
  refine ⟨fun documents => ⟨emits_of_compile, ?_⟩, fun error => compile_eq_error_iff_first, ?_⟩
  · intro emits
    cases compiled : manifest.compile with
    | ok found => rw [(emits_of_compile compiled).unique emits]
    | error error =>
      rcases compile_eq_error_iff_first.mp compiled with ⟨before, failing, after, split, _, failed⟩
      rcases emits.resolves (by simp [split] : failing ∈ manifest.models) with ⟨keys, resolved⟩
      exact nomatch failed.symm.trans resolved
  · constructor
    · rintro ⟨error, compiled⟩
      rcases compile_eq_error_iff_first.mp compiled with ⟨before, failing, after, split, _, failed⟩
      exact ⟨failing, by simp [split], error, failed⟩
    · rintro ⟨model, declared, error, failed⟩
      cases compiled : manifest.compile with
      | error error => exact ⟨error, rfl⟩
      | ok documents =>
        rcases (emits_of_compile compiled).resolves declared with ⟨keys, resolved⟩
        exact nomatch failed.symm.trans resolved

end Manifest

end SemanticIndex
