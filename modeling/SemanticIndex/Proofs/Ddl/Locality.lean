import SemanticIndex.Proofs.Ddl.TableKeys

/-!
# What a document depends on

Only the names and primary keys of models, and the relationships of known join types, are read
across the objects of a manifest.  They decide whether it compiles.  Every document depends besides
on its own model, metric or view alone, and of these on what is written of them: not on fields
that are not interpreted, on columns that point along a relationship or on the expression of a
column that is not calculated.
-/

namespace SemanticIndex

/-! ## What is written of an object -/

/-- A column as it is written: only calculated columns show their expression. -/
def Column.bare (column : Column) : Column :=
  { column with expression := if column.calculated then column.expression else none, extra := [] }

/-- A dimension or measure without the fields that are not interpreted. -/
def MetricColumn.bare (column : MetricColumn) : MetricColumn :=
  { column with extra := [] }

/-- A metric without the fields that are not interpreted. -/
def Metric.bare (metric : Metric) : Metric :=
  { metric with
    dimension := metric.dimension.map MetricColumn.bare
    measure := metric.measure.map MetricColumn.bare
    extra := [] }

/-- A view without the fields that are not interpreted. -/
def View.bare (view : View) : View :=
  { view with extra := [] }

theorem Column.entry_bare (column : Column) (key : Option String) :
    column.bare.entry key = column.entry key := by
  have comments : column.bare.comments = column.comments := by
    have same : column.bare.calculated = column.calculated := rfl
    unfold Column.comments
    rw [same]
    cases calculated : column.calculated with
    | false => rfl
    | true => simp [bare, calculated]
  rw [entry, entry, comments]
  rfl

theorem Metric.table_bare (metric : Metric) : metric.bare.table = metric.table := by
  simp only [table, bare, List.map_map]
  rfl

theorem View.definition_bare (view : View) : view.bare.definition = view.definition := rfl

/-- Models whose tables are written alike, but for their names and keys. -/
structure Model.SameEntries (model other : Model) : Prop where
  properties : model.properties = other.properties
  columns : model.physicalColumns.map Column.bare = other.physicalColumns.map Column.bare

theorem Model.SameEntries.table_eq
    {model other : Model}
    (same : model.SameEntries other)
    (sameName : model.nameAndKey = other.nameAndKey)
    (keys : List ForeignKey) :
    model.table keys = other.table keys := by
  obtain ⟨name, key⟩ := Prod.mk.inj sameName
  have entries (key : Option String) :
      model.physicalColumns.map (Column.entry key) =
        other.physicalColumns.map (Column.entry key) := by
    have bare := congrArg (List.map (Column.entry key)) same.columns
    simpa only [List.map_map, Function.comp_def, Column.entry_bare] using bare
  have header : model.header = other.header := by rw [Model.header, Model.header, same.properties]
  rw [table, table, header, name, key, entries]

namespace Manifest

/-- Manifests that read the same across their objects. -/
structure SameResolution (manifest other : Manifest) : Prop where
  models : manifest.models.map Model.nameAndKey = other.models.map Model.nameAndKey
  joins : joins manifest.relationships = joins other.relationships

/-- Manifests that have the same object, as far as it is written, at a position of emission. -/
inductive AgreeAt (manifest other : Manifest) : Nat → Prop where
  | model
      {position : Nat}
      {model otherModel : Model}
      (found : manifest.models[position]? = some model)
      (otherFound : other.models[position]? = some otherModel)
      (same : model.SameEntries otherModel) :
      AgreeAt manifest other position
  | metric
      {place : Nat}
      {metric otherMetric : Metric}
      (found : manifest.metrics[place]? = some metric)
      (otherFound : other.metrics[place]? = some otherMetric)
      (same : metric.bare = otherMetric.bare) :
      AgreeAt manifest other (manifest.models.length + place)
  | view
      {place : Nat}
      {view otherView : View}
      (count : manifest.metrics.length = other.metrics.length)
      (found : manifest.views[place]? = some view)
      (otherFound : other.views[place]? = some otherView)
      (same : view.bare = otherView.bare) :
      AgreeAt manifest other (manifest.models.length + manifest.metrics.length + place)

/-- Two outcomes of compiling: one error, or the same document wherever the manifests agree. -/
inductive AgreeLocally (manifest other : Manifest) :
    Except Error (List Document) → Except Error (List Document) → Prop where
  | failed (error : Error) : AgreeLocally manifest other (.error error) (.error error)
  | compiled
      {documents others : List Document}
      (same : ∀ position, manifest.AgreeAt other position →
        ∃ document, documents[position]? = some document ∧ others[position]? = some document) :
      AgreeLocally manifest other (.ok documents) (.ok others)

variable {manifest other : Manifest}

section Emitted

variable {documents others : List Document}
    (emits : manifest.Emits documents)
    (otherEmits : other.Emits others)

include emits otherEmits

/-- Where the contents agree, both emit the same document. -/
theorem exists_same_document
    {position : Nat}
    {document otherDocument : Document}
    (found : documents[position]? = some document)
    (otherFound : others[position]? = some otherDocument)
    (content : document.content = otherDocument.content) :
    ∃ document, documents[position]? = some document ∧ others[position]? = some document := by
  obtain rfl := emits.document_eq otherEmits found otherFound content
  exact ⟨document, found, otherFound⟩

theorem SameResolution.exists_same_document_of_agreeAt
    (same : manifest.SameResolution other)
    {position : Nat}
    (agree : manifest.AgreeAt other position) :
    ∃ document, documents[position]? = some document ∧ others[position]? = some document := by
  have models : manifest.models.length = other.models.length := by
    simpa using congrArg List.length same.models
  cases agree with
  | @model _ model otherModel found otherFound alike =>
    obtain ⟨document, keys, emitted, resolved, block⟩ := emits.models _ _ found
    obtain ⟨otherDocument, otherKeys, otherEmitted, otherResolved, otherBlock⟩ :=
      otherEmits.models _ _ otherFound
    have sameName : model.nameAndKey = otherModel.nameAndKey := by
      have named := congrArg (·[position]?) same.models
      simpa [found, otherFound] using named
    have sameKeys : keys = otherKeys := by
      rw [foreignKeys_eq_of_joins same.models same.joins,
        show model.name = otherModel.name from congrArg Prod.fst sameName,
        otherResolved] at resolved
      exact (Except.ok.inj resolved).symm
    apply exists_same_document emits otherEmits emitted otherEmitted
    rw [Model.isBlock_iff.mp block, Model.isBlock_iff.mp otherBlock, sameKeys,
      alike.table_eq sameName]
  | metric found otherFound alike =>
    obtain ⟨document, emitted, block⟩ := emits.metrics _ _ found
    obtain ⟨otherDocument, otherEmitted, otherBlock⟩ := otherEmits.metrics _ _ otherFound
    rw [← models] at otherEmitted
    apply exists_same_document emits otherEmits emitted otherEmitted
    rw [Metric.isBlock_iff.mp block, Metric.isBlock_iff.mp otherBlock, ← Metric.table_bare,
      alike, Metric.table_bare]
  | @view _ view otherView count found otherFound alike =>
    obtain ⟨document, emitted, block⟩ := emits.views _ _ found
    obtain ⟨otherDocument, otherEmitted, otherBlock⟩ := otherEmits.views _ _ otherFound
    have sameDefinition : view.definition = otherView.definition := by
      rw [← View.definition_bare, alike, View.definition_bare]
    rw [← models, ← count] at otherEmitted
    apply exists_same_document emits otherEmits emitted otherEmitted
    exact block.trans (sameDefinition.trans otherBlock.symm)

end Emitted

/--
Manifests that read the same across their objects both compile or fail with one error, and at
every position where they have the same object as far as it is written they have one document.
-/
theorem compile_local (same : manifest.SameResolution other) :
    manifest.AgreeLocally other manifest.compile other.compile := by
  have compiled := manifest.compile_eq_map_tableKeys
  have otherCompiled := other.compile_eq_map_tableKeys
  rw [← tableKeys_congr same.models same.joins] at otherCompiled
  cases collected : manifest.tableKeys with
  | error error =>
    rw [collected] at compiled otherCompiled
    rw [compiled, otherCompiled]
    exact .failed error
  | ok keys =>
    rw [collected] at compiled otherCompiled
    rw [compiled, otherCompiled]
    exact .compiled fun _ agree =>
      same.exists_same_document_of_agreeAt (emits_of_compile compiled)
        (emits_of_compile otherCompiled) agree

/-- Orders with a calculated column, their customers, a metric and a view. -/
def billing : Manifest where
  models := [
    ⟨"orders", none, [
      ⟨"id", "int", none, none, none, none, []⟩,
      ⟨"total", "double", none, none, some "sum(price)", some true, []⟩], some "id", []⟩,
    ⟨"customers", none, [⟨"id", "int", none, none, none, none, []⟩], some "id", []⟩]
  relationships := [
    ⟨"bill", "orders", "customers", .manyToOne, "orders.customer = customers.id", []⟩]
  metrics := [⟨"revenue", "orders", [], [⟨"sum", "double", some "sum(total)", []⟩], []⟩]
  views := [⟨"best", "SELECT 1", none, []⟩]
  extra := []

/-- Billing with pointers, expressions, relationships, properties and keys that play no part. -/
def annotatedBilling : Manifest where
  models := [
    ⟨"orders", none, [
      ⟨"customer", "customers", none, some "bill", none, none, []⟩,
      ⟨"id", "int", none, none, some "unread", none, [("note", .null)]⟩,
      ⟨"total", "double", none, none, some "sum(price)", some true, []⟩], some "id",
      [("owner", .string "sales")]⟩,
    ⟨"customers", some [("description", .string "People")], [], some "id", []⟩]
  relationships := [
    ⟨"odd", "ghosts", "orders", .other "MANY_TO_MANY", "no condition", []⟩,
    ⟨"bill", "orders", "customers", .manyToOne, "orders.customer = customers.id",
      [("note", .bool true)]⟩]
  metrics := [⟨"revenue", "orders", [],
    [⟨"sum", "double", some "sum(total)", [("unit", .string "EUR")]⟩], [("note", .null)]⟩]
  views := [⟨"best", "SELECT 1", none, [("note", .null)]⟩, ⟨"worst", "SELECT 2", none, []⟩]
  extra := [("catalog", .string "billing")]

theorem compile_local_annotated :
    billing.SameResolution annotatedBilling ∧ billing.AgreeAt annotatedBilling 0 ∧
      billing.AgreeAt annotatedBilling 2 ∧ billing.AgreeAt annotatedBilling 3 ∧
      ∃ documents others, billing.compile = .ok documents ∧ annotatedBilling.compile = .ok others ∧
        ∀ position ∈ [0, 2, 3],
          ∃ document, documents[position]? = some document ∧ others[position]? = some document := by
  have same : billing.SameResolution annotatedBilling := ⟨rfl, rfl⟩
  have orders : billing.AgreeAt annotatedBilling 0 := .model rfl rfl ⟨rfl, rfl⟩
  have revenue : billing.AgreeAt annotatedBilling (2 + 0) := .metric rfl rfl rfl
  have best : billing.AgreeAt annotatedBilling (2 + 1 + 0) := .view rfl rfl rfl rfl
  have compiles : billing.compile.isOk = true := by decide +kernel
  have agree := compile_local same
  refine ⟨same, orders, revenue, best, ?_⟩
  generalize billing.compile = outcome at agree compiles
  generalize annotatedBilling.compile = otherOutcome at agree
  cases agree with
  | failed error => cases compiles
  | @compiled documents others alike =>
    refine ⟨documents, others, rfl, rfl, ?_⟩
    simp only [List.forall_mem_cons]
    exact ⟨alike 0 orders, alike 2 revenue, alike 3 best, List.forall_mem_nil _⟩

end Manifest

end SemanticIndex
