import SemanticIndex.Proofs.Ddl.Locality
import SemanticIndex.Proofs.Json.Reordering
import SemanticIndex.Proofs.Manifest.Sections
import SemanticIndex.ViewRecord

/-!
# The order of keys

Every member of an entity is read by its key, and what is not interpreted is kept as it stands.
So the order of keys, at any level, decides neither whether a text is accepted nor what its
manifest means: only the properties and the fields that are not interpreted remember it.  Of
these, the properties alone are ever written into documents.
-/

namespace SemanticIndex

variable {fields others : Properties}

/-! ## Entities up to the order of keys -/

/-- The columns differ at most in the order of keys in their properties and extra fields. -/
structure Column.Reordered (column other : Column) : Prop where
  same : other = { column with properties := other.properties, extra := other.extra }
  properties : Option.Rel Fields.Reordered column.properties other.properties
  extra : Fields.Reordered column.extra other.extra

structure Model.Reordered (model other : Model) : Prop where
  same : other = { model with
    properties := other.properties, columns := other.columns, extra := other.extra }
  properties : Option.Rel Fields.Reordered model.properties other.properties
  columns : List.Forall₂ Column.Reordered model.columns other.columns
  extra : Fields.Reordered model.extra other.extra

structure Relationship.Reordered (relationship other : Relationship) : Prop where
  same : other = { relationship with extra := other.extra }
  extra : Fields.Reordered relationship.extra other.extra

structure MetricColumn.Reordered (column other : MetricColumn) : Prop where
  same : other = { column with extra := other.extra }
  extra : Fields.Reordered column.extra other.extra

structure Metric.Reordered (metric other : Metric) : Prop where
  same : other = { metric with
    dimension := other.dimension, measure := other.measure, extra := other.extra }
  dimension : List.Forall₂ MetricColumn.Reordered metric.dimension other.dimension
  measure : List.Forall₂ MetricColumn.Reordered metric.measure other.measure
  extra : Fields.Reordered metric.extra other.extra

structure View.Reordered (view other : View) : Prop where
  same : other = { view with properties := other.properties, extra := other.extra }
  properties : Option.Rel Fields.Reordered view.properties other.properties
  extra : Fields.Reordered view.extra other.extra

/-- The manifests differ at most in the order of keys in properties and extra fields. -/
structure Manifest.Reordered (manifest other : Manifest) : Prop where
  models : List.Forall₂ Model.Reordered manifest.models other.models
  relationships : List.Forall₂ Relationship.Reordered manifest.relationships other.relationships
  metrics : List.Forall₂ Metric.Reordered manifest.metrics other.metrics
  views : List.Forall₂ View.Reordered manifest.views other.views
  extra : Fields.Reordered manifest.extra other.extra

section Meaning

/-- What the objects in two arrays describe is related one by one. -/
theorem forall₂_map_objects
    {entity : Type}
    {relation : entity → entity → Prop}
    {describe : Properties → entity}
    (each : ∀ {fields others : Properties}, Fields.Reordered fields others →
      relation (describe fields) (describe others))
    (reordered : Fields.Reordered fields others)
    (key : String) :
    List.Forall₂ relation ((fields.objects key).map describe)
      ((others.objects key).map describe) := by
  rw [List.forall₂_map_left_iff, List.forall₂_map_right_iff]
  exact (reordered.objects key).imp fun _ _ => each

theorem Column.reordered_ofFields (reordered : Fields.Reordered fields others) :
    (Column.ofFields fields).Reordered (Column.ofFields others) where
  same := by simp only [ofFields, reordered.text_eq, reordered.text?_eq, reordered.bool?_eq]
  properties := reordered.object? "properties"
  extra := reordered.without _

theorem Model.reordered_ofFields (reordered : Fields.Reordered fields others) :
    (Model.ofFields fields).Reordered (Model.ofFields others) where
  same := by simp only [ofFields, reordered.text_eq, reordered.text?_eq]
  properties := reordered.object? "properties"
  columns := forall₂_map_objects Column.reordered_ofFields reordered "columns"
  extra := reordered.without _

theorem Relationship.reordered_ofFields (reordered : Fields.Reordered fields others) :
    (Relationship.ofFields fields).Reordered (Relationship.ofFields others) where
  same := by simp only [ofFields, reordered.text_eq, reordered.texts_eq]
  extra := reordered.without _

theorem MetricColumn.reordered_ofFields (reordered : Fields.Reordered fields others) :
    (MetricColumn.ofFields fields).Reordered (MetricColumn.ofFields others) where
  same := by simp only [ofFields, reordered.text_eq, reordered.text?_eq]
  extra := reordered.without _

theorem Metric.reordered_ofFields (reordered : Fields.Reordered fields others) :
    (Metric.ofFields fields).Reordered (Metric.ofFields others) where
  same := by simp only [ofFields, reordered.text_eq]
  dimension := forall₂_map_objects MetricColumn.reordered_ofFields reordered "dimension"
  measure := forall₂_map_objects MetricColumn.reordered_ofFields reordered "measure"
  extra := reordered.without _

theorem View.reordered_ofFields (reordered : Fields.Reordered fields others) :
    (View.ofFields fields).Reordered (View.ofFields others) where
  same := by simp only [ofFields, reordered.text_eq]
  properties := reordered.object? "properties"
  extra := reordered.without _

theorem Manifest.reordered_ofFields (reordered : Fields.Reordered fields others) :
    (Manifest.ofFields fields).Reordered (Manifest.ofFields others) where
  models := forall₂_map_objects Model.reordered_ofFields reordered "models"
  relationships := forall₂_map_objects Relationship.reordered_ofFields reordered "relationships"
  metrics := forall₂_map_objects Metric.reordered_ofFields reordered "metrics"
  views := forall₂_map_objects View.reordered_ofFields reordered "views"
  extra := reordered.without _

end Meaning

/-! ## The grammar up to the order of keys -/

namespace Grammar

/-- Whether a value is of the kind does not depend on the order of keys. -/
def Orderless (kind : Kind) : Prop :=
  ∀ ⦃one other : Json⦄, one.Reordered other → kind one → kind other

theorem orderless_isText : Orderless IsText := by
  rintro _ _ reordered ⟨text, rfl⟩
  cases reordered
  exact ⟨text, rfl⟩

theorem orderless_isTruth : Orderless IsTruth := by
  rintro _ _ reordered ⟨truth, rfl⟩
  cases reordered
  exact ⟨truth, rfl⟩

theorem orderless_isObject : Orderless IsObject := by
  rintro _ _ reordered ⟨fields, rfl⟩
  cases reordered
  exact ⟨_, rfl⟩

theorem exists_of_array
    {elements : List Json}
    {other : Json}
    (reordered : (Json.array elements).Reordered other) :
    ∃ others, other = .array others ∧ List.Forall₂ Json.Reordered elements others := by
  cases reordered with
  | array sameLength alike => exact ⟨_, rfl, Json.Reordered.array_iff.mp (.array sameLength alike)⟩

theorem orderless_isPair : Orderless IsPair := by
  rintro _ _ reordered ⟨first, second, rfl⟩
  obtain ⟨others, rfl, alike⟩ := exists_of_array reordered
  obtain _ | ⟨⟨⟩, _ | ⟨⟨⟩, ⟨⟩⟩⟩ := alike
  exact ⟨first, second, rfl⟩

section Kinds

variable {kind : Kind} {key : String}

theorem Orderless.nullable (orderless : Orderless kind) : Orderless (Nullable kind) := by
  rintro _ _ reordered (rfl | ofKind)
  · cases reordered
    exact .inl rfl
  · exact .inr (orderless reordered ofKind)

theorem Orderless.isList (orderless : Orderless kind) : Orderless (IsList kind) := by
  rintro _ _ reordered ⟨elements, rfl, ofKind⟩
  obtain ⟨others, rfl, alike⟩ := exists_of_array reordered
  refine ⟨others, rfl, ?_⟩
  clear reordered
  induction alike with
  | nil => nofun
  | cons first _ induction =>
    rw [List.forall_mem_cons] at ofKind ⊢
    exact ⟨orderless first ofKind.1, induction ofKind.2⟩

theorem orderless_describes
    {entity : Properties → Prop}
    (orderless : ∀ {fields others : Properties}, Fields.Reordered fields others →
      entity fields → entity others) :
    Orderless (Describes entity) := by
  rintro _ _ reordered ⟨fields, rfl, described⟩
  cases reordered with
  | object sameKeys alike => exact ⟨_, rfl, orderless (.object sameKeys alike) described⟩

variable (orderless : Orderless kind) (reordered : Fields.Reordered fields others)

include orderless reordered

theorem Orderless.required (required : Required fields key kind) : Required others key kind := by
  obtain ⟨one, found, ofKind⟩ := required
  obtain ⟨other, otherFound, alike⟩ := reordered.exists_get? found
  exact ⟨other, otherFound, orderless alike ofKind⟩

theorem Orderless.optional (optional : Optional fields key kind) : Optional others key kind := by
  intro other otherFound
  -- The value is found on the other side, so the relation is read backwards.
  obtain ⟨one, found, alike⟩ := reordered.symm.exists_get? otherFound
  exact orderless alike.symm (optional one found)

end Kinds

section Entities

variable (reordered : Fields.Reordered fields others)

include reordered

theorem IsColumn.of_reordered (column : IsColumn fields) : IsColumn others where
  name := orderless_isText.required reordered column.name
  type := orderless_isText.optional reordered column.type
  properties := orderless_isObject.nullable.optional reordered column.properties
  relationship := orderless_isText.nullable.optional reordered column.relationship
  expression := orderless_isText.nullable.optional reordered column.expression
  isCalculated := orderless_isTruth.nullable.optional reordered column.isCalculated

theorem IsModel.of_reordered (model : IsModel fields) : IsModel others where
  name := orderless_isText.required reordered model.name
  properties := orderless_isObject.nullable.optional reordered model.properties
  columns := (orderless_describes IsColumn.of_reordered).isList.optional reordered model.columns
  primaryKey := orderless_isText.nullable.optional reordered model.primaryKey

theorem IsRelationship.of_reordered (relationship : IsRelationship fields) :
    IsRelationship others where
  name := orderless_isText.optional reordered relationship.name
  models := orderless_isPair.required reordered relationship.models
  joinType := orderless_isText.required reordered relationship.joinType
  condition := orderless_isText.required reordered relationship.condition

theorem IsMetricColumn.of_reordered (column : IsMetricColumn fields) : IsMetricColumn others where
  name := orderless_isText.required reordered column.name
  type := orderless_isText.optional reordered column.type
  expression := orderless_isText.nullable.optional reordered column.expression

theorem IsMetric.of_reordered (metric : IsMetric fields) : IsMetric others :=
  have columns := (orderless_describes IsMetricColumn.of_reordered).isList
  { name := orderless_isText.required reordered metric.name
    baseObject := orderless_isText.required reordered metric.baseObject
    dimension := columns.optional reordered metric.dimension
    measure := columns.optional reordered metric.measure }

theorem IsView.of_reordered (view : IsView fields) : IsView others where
  name := orderless_isText.required reordered view.name
  statement := orderless_isText.required reordered view.statement
  properties := orderless_isObject.nullable.optional reordered view.properties

theorem IsManifest.of_reordered (manifest : IsManifest fields) : IsManifest others where
  models :=
    (orderless_describes IsModel.of_reordered).isList.required reordered manifest.models
  relationships := (orderless_describes IsRelationship.of_reordered).isList.required reordered
    manifest.relationships
  metrics :=
    (orderless_describes IsMetric.of_reordered).isList.required reordered manifest.metrics
  views := (orderless_describes IsView.of_reordered).isList.required reordered manifest.views

theorem isManifest_iff_of_reordered : IsManifest fields ↔ IsManifest others :=
  ⟨.of_reordered reordered, .of_reordered reordered.symm⟩

end Entities

end Grammar

/-! ## Documents up to the order of keys -/

/-- Lists whose elements correspond have the same images if corresponding elements have. -/
theorem map_eq_of_forall₂
    {element image : Type}
    {relation : element → element → Prop}
    {change : element → image}
    {one other : List element}
    (alike : List.Forall₂ relation one other)
    (same : ∀ {first second}, relation first second → change first = change second) :
    one.map change = other.map change := by
  rw [← List.forall₂_eq_eq_eq, List.forall₂_map_left_iff, List.forall₂_map_right_iff]
  exact alike.imp fun _ _ => same

theorem forall₂_and_map_eq
    {element image : Type}
    {relation : element → element → Prop}
    {change : element → image}
    {one other : List element}
    (alike : List.Forall₂ relation one other)
    (same : one.map change = other.map change) :
    List.Forall₂ (fun first second => relation first second ∧ change first = change second)
      one other := by
  rw [← List.forall₂_eq_eq_eq, List.forall₂_map_left_iff, List.forall₂_map_right_iff] at same
  exact alike.mp (fun _ _ => .intro) same

theorem Column.Reordered.bare_eq
    {column other : Column}
    (reordered : column.Reordered other)
    (sameProperties : column.properties = other.properties) :
    column.bare = other.bare := by
  rw [reordered.same, ← sameProperties]
  rfl

theorem Relationship.Reordered.bare_eq
    {relationship other : Relationship}
    (reordered : relationship.Reordered other) :
    relationship.bare = other.bare := by
  rw [reordered.same]
  rfl

theorem MetricColumn.Reordered.bare_eq
    {column other : MetricColumn}
    (reordered : column.Reordered other) :
    column.bare = other.bare := by
  rw [reordered.same]
  rfl

theorem Metric.Reordered.table_eq
    {metric other : Metric}
    (reordered : metric.Reordered other) :
    metric.table = other.table := by
  have dimension := map_eq_of_forall₂ reordered.dimension MetricColumn.Reordered.bare_eq
  have measure := map_eq_of_forall₂ reordered.measure MetricColumn.Reordered.bare_eq
  rw [← Metric.table_bare metric, ← Metric.table_bare other, reordered.same]
  simp only [Metric.bare, dimension, measure]

theorem View.Reordered.definition_eq
    {view other : View}
    (reordered : view.Reordered other)
    (sameProperties : view.properties = other.properties) :
    view.definition = other.definition := by
  rw [reordered.same, ← sameProperties]
  rfl

theorem View.Reordered.record_eq
    {view other : View}
    (reordered : view.Reordered other)
    (sameProperties : view.properties = other.properties) :
    ViewRecord.ofView view = ViewRecord.ofView other := by
  rw [reordered.same, ← sameProperties]
  rfl

theorem joins_eq_filter (relationships : List Relationship) :
    joins relationships =
      (relationships.map Relationship.bare).filter (·.joinType.isKnown) := by
  rw [joins, List.filter_map]
  rfl

theorem Model.map_bare_physicalColumns (model : Model) :
    model.physicalColumns.map Column.bare =
      (model.columns.map Column.bare).filter (!·.isRelationship) := by
  rw [physicalColumns, List.filter_map]
  rfl

theorem Model.Reordered.nameAndKey_eq
    {model other : Model}
    (reordered : model.Reordered other) :
    model.nameAndKey = other.nameAndKey := by
  rw [reordered.same]
  rfl

theorem Model.Reordered.table_eq
    {model other : Model}
    (reordered : model.Reordered other)
    (sameProperties : model.properties = other.properties)
    (sameColumns : model.columns.map Column.properties = other.columns.map Column.properties) :
    model.table = other.table := by
  have bare : model.columns.map Column.bare = other.columns.map Column.bare :=
    map_eq_of_forall₂ (forall₂_and_map_eq reordered.columns sameColumns)
      fun related => related.1.bare_eq related.2
  have sameEntries : model.SameEntries other :=
    ⟨sameProperties, by rw [map_bare_physicalColumns, map_bare_physicalColumns, bare]⟩
  funext keys
  exact sameEntries.table_eq reordered.nameAndKey_eq keys

namespace Manifest

/-- The manifests have the same properties, with their keys in the same order at every depth. -/
structure SameProperties (manifest other : Manifest) : Prop where
  models : manifest.models.map Model.properties = other.models.map Model.properties
  columns : manifest.models.map (·.columns.map Column.properties) =
    other.models.map (·.columns.map Column.properties)
  views : manifest.views.map View.properties = other.views.map View.properties

variable {manifest other : Manifest}

theorem compile_congr
    (names : manifest.models.map Model.nameAndKey = other.models.map Model.nameAndKey)
    (sameJoins : joins manifest.relationships = joins other.relationships)
    (tables : manifest.models.map Model.table = other.models.map Model.table)
    (metrics : manifest.metrics.map Metric.table = other.metrics.map Metric.table)
    (views : manifest.views.map View.definition = other.views.map View.definition) :
    manifest.compile = other.compile := by
  have statements (keys : List (List ForeignKey)) :
      manifest.statementsWith keys = other.statementsWith keys := by
    have applied (models : List Model) :
        List.zipWith Model.table models keys =
          List.zipWith (fun table keys => table keys) (models.map Model.table) keys := by
      rw [List.zipWith_map_left]
    rw [statementsWith, statementsWith, applied, applied, tables, metrics, views]
  rw [compile_eq_map_tableKeys, compile_eq_map_tableKeys, tableKeys_congr names sameJoins]
  simp only [statements]

namespace Reordered

variable (reordered : manifest.Reordered other) (same : manifest.SameProperties other)

include reordered same

theorem compile_eq : manifest.compile = other.compile := by
  have tables : manifest.models.map Model.table = other.models.map Model.table := by
    have alike := forall₂_and_map_eq (forall₂_and_map_eq reordered.models same.models) same.columns
    exact map_eq_of_forall₂ alike fun related => related.1.1.table_eq related.1.2 related.2
  have bareJoins := map_eq_of_forall₂ reordered.relationships Relationship.Reordered.bare_eq
  have definitions : manifest.views.map View.definition = other.views.map View.definition :=
    map_eq_of_forall₂ (forall₂_and_map_eq reordered.views same.views) fun related =>
      related.1.definition_eq related.2
  -- Foreign keys come from names and joins alone, texts from what is written of each object.
  apply compile_congr _ _ tables _ definitions
  · exact map_eq_of_forall₂ reordered.models Model.Reordered.nameAndKey_eq
  · rw [joins_eq_filter, joins_eq_filter, bareJoins]
  · exact map_eq_of_forall₂ reordered.metrics Metric.Reordered.table_eq

theorem viewDocuments_eq : viewDocuments manifest.views = viewDocuments other.views := by
  rw [viewDocuments, viewDocuments]
  congr 1
  refine map_eq_of_forall₂ (forall₂_and_map_eq reordered.views same.views) fun related => ?_
  rw [related.1.record_eq related.2]

end Reordered

/-! ## Texts up to the order of keys -/

/--
Texts whose objects differ at most in the order of keys, at any level, are both accepted or both
refused for their shape.  Accepted, they mean the same manifest up to the order of keys in
properties and in fields that are not interpreted.  Where no properties are reordered, the manifests
compile to the same documents or fail with the same error, and they have the same view documents.
-/
theorem validate_of_reordered
    {text otherText : String}
    (normalized : normalize text = .ok fields)
    (otherNormalized : normalize otherText = .ok others)
    (reordered : Fields.Reordered fields others) :
    (∃ fault otherFault, validate text = .error (.schema fault) ∧
        validate otherText = .error (.schema otherFault)) ∨
      ∃ manifest other, validate text = .ok manifest ∧ validate otherText = .ok other ∧
        manifest.Reordered other ∧
        (manifest.SameProperties other → manifest.compile = other.compile ∧
          viewDocuments manifest.views = viewDocuments other.views) := by
  have sameGrammar := Grammar.isManifest_iff_of_reordered reordered
  rw [isManifest_of_normalize_iff normalized, isManifest_of_normalize_iff otherNormalized]
    at sameGrammar
  rw [validate_of_normalize normalized, validate_of_normalize otherNormalized]
  cases fault : Shape.manifestFault fields with
  | none =>
    have alike := reordered_ofFields reordered
    rw [sameGrammar.mp fault]
    exact .inr ⟨_, _, rfl, rfl, alike,
      fun same => ⟨alike.compile_eq same, alike.viewDocuments_eq same⟩⟩
  | some departure =>
    cases otherFault : Shape.manifestFault others with
    | none => exact nomatch fault.symm.trans (sameGrammar.mpr otherFault)
    | some otherDeparture => exact .inl ⟨departure, otherDeparture, rfl, rfl⟩

def priceColumn : Properties :=
  [("name", .string "price"), ("type", .string "INT"),
    ("properties", .object [("unit", .string "EUR"), ("per", .integer 1)])]

def ordersModel (column : Properties) : Properties :=
  [("name", .string "orders"), ("columns", .array [.object column])]

def allView : Properties :=
  [("name", .string "all"), ("statement", .string "SELECT 1")]

def note : Properties :=
  [("by", .string "us"), ("draft", .null)]

/-- A manifest with a field that is not interpreted. -/
def forward : Properties :=
  [("note", .object note), ("models", .array [.object (ordersModel priceColumn)]),
    ("relationships", .array []), ("metrics", .array []), ("views", .array [.object allView])]

/-- The same manifest with all keys in the reverse order, except in the properties. -/
def backward : Properties :=
  [("views", .array [.object allView.reverse]), ("metrics", .array []),
    ("relationships", .array []),
    ("models", .array [.object (ordersModel priceColumn.reverse).reverse]),
    ("note", .object note.reverse)]

theorem reordered_backward : Fields.Reordered forward backward := by
  have reversed (fields : Properties) (distinct : fields.keys.Nodup) :
      Fields.Reordered fields fields.reverse :=
    Fields.reordered_of_perm distinct (List.reverse_perm fields).symm
  have columns := Json.Reordered.array_iff.mpr (.cons (reversed priceColumn (by decide)) .nil)
  have model :
      Fields.Reordered (ordersModel priceColumn) (ordersModel priceColumn.reverse).reverse := by
    rw [Fields.reordered_iff_perm (by decide)]
    exact ⟨(ordersModel priceColumn).reverse, (List.reverse_perm _).symm,
      .cons ⟨rfl, columns⟩ (.cons ⟨rfl, .refl _⟩ .nil)⟩
  have models := Json.Reordered.array_iff.mpr (.cons model .nil)
  have views := Json.Reordered.array_iff.mpr (.cons (reversed allView (by decide)) .nil)
  rw [Fields.reordered_iff_perm (by decide)]
  exact ⟨forward.reverse, (List.reverse_perm forward).symm,
    .cons ⟨rfl, views⟩ (.cons ⟨rfl, .refl _⟩ (.cons ⟨rfl, .refl _⟩
      (.cons ⟨rfl, models⟩ (.cons ⟨rfl, reversed note (by decide)⟩ .nil))))⟩

/-- Both orders are accepted with the same documents. -/
theorem validate_of_reordered_backward :
    ∃ manifest other,
      validate (Json.object forward).compact = .ok manifest ∧
      validate (Json.object backward).compact = .ok other ∧
      manifest.Reordered other ∧ manifest.compile = other.compile ∧
      viewDocuments manifest.views = viewDocuments other.views := by
  have fits : (Json.object forward).Fits (121 + 6) := by
    simp [forward, note, ordersModel, priceColumn, allView, Fields.keys]
  have otherFits : (Json.object backward).Fits (121 + 6) := by
    simp [backward, note, ordersModel, priceColumn, allView, Fields.keys]
  have normalized : normalize (Json.object forward).compact = .ok forward :=
    normalize_of_given (Json.read?_compact fits) (by simp [sections, forward, Fields.get?])
  have otherNormalized : normalize (Json.object backward).compact = .ok backward :=
    normalize_of_given (Json.read?_compact otherFits) (by simp [sections, backward, Fields.get?])
  have accepted := validate_of_normalize normalized
  have otherAccepted := validate_of_normalize otherNormalized
  rcases validate_of_reordered normalized otherNormalized reordered_backward with
    ⟨fault, _, refused, _⟩ | ⟨manifest, other, valid, otherValid, alike, same⟩
  · cases accepted.symm.trans refused
  · obtain rfl := Except.ok.inj (valid.symm.trans accepted)
    obtain rfl := Except.ok.inj (otherValid.symm.trans otherAccepted)
    exact ⟨_, _, valid, otherValid, alike, same ⟨rfl, rfl, rfl⟩⟩

end Manifest

end SemanticIndex
