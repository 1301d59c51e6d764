import SemanticIndex.Proofs.Manifest.Members

/-!
# Entities read back

What an entity keeps of the object it was read from is well formed: its properties are not nested
too deep, and its other members have none of the interpreted keys.  A well-formed entity is
written as an object of its shape that reads as the entity again.
-/

namespace SemanticIndex

/-! ## Entities that read back -/

/-- An entity is written as an object that fits, has its shape and reads as the entity. -/
def Restores
    {entity : Type}
    (levels : Nat)
    (shape : Shape)
    (ofFields : Properties → entity)
    (toJson : entity → Json)
    (written : entity) : Prop :=
  ∃ fields, toJson written = .object fields ∧ (Json.object fields).Fits levels ∧
    shape (.object fields) = none ∧ ofFields fields = written

/-- A reader gives an entity on every object with these members and the others behind them. -/
def Reads
    {entity : Type}
    (filling : Filling)
    (extra : Properties)
    (ofFields : Properties → entity)
    (written : entity) : Prop :=
  ∀ fields : Properties, (∀ entry ∈ filling, fields.get? entry.1.key = entry.2) →
    fields.without filling.keys = extra → ofFields fields = written

section Entities

variable {entity : Type} {levels : Nat} {ofFields : Properties → entity} {toJson : entity → Json}

theorem Filled.restores
    {filling : Filling}
    {extra : Properties}
    {written : entity}
    (filled : Filled levels filling extra)
    (name : String)
    (same : toJson written = .object (filling.fields ++ extra))
    (reads : Reads filling extra ofFields written) :
    Restores (levels + 1) (Shape.entity name (filling.map Prod.fst)) ofFields toJson written :=
  ⟨_, same, filled.fits, filled.shape_eq_none name,
    reads _ filled.get?_eq filled.without_eq⟩

variable {shape : Shape} {entities : List entity}
    (restores : ∀ entity ∈ entities, Restores levels shape ofFields toJson entity)

include restores

theorem takes_array (key : String) :
    Member.Takes (levels + 1) ⟨key, false, Shape.arrayOf shape⟩
      (some (.array (entities.map toJson))) := by
  apply Member.takes_some
  · refine Shape.arrayOf_eq_none_iff.mpr ⟨_, rfl, ?_⟩
    intro element inside
    obtain ⟨entity, found, rfl⟩ := List.mem_map.mp inside
    obtain ⟨fields, written, _, shaped, _⟩ := restores entity found
    rw [written]
    exact shaped
  · apply Json.FitsWith.array
    intro element inside
    obtain ⟨entity, found, rfl⟩ := List.mem_map.mp inside
    obtain ⟨fields, written, fits, _⟩ := restores entity found
    rw [written]
    exact fits

theorem objects_of_get?
    {fields : Properties}
    {key : String}
    (found : fields.get? key = some (.array (entities.map toJson))) :
    (fields.objects key).map ofFields = entities := by
  rw [Fields.objects, found]
  show ((entities.map toJson).filterMap Json.fields?).map ofFields = entities
  clear found
  induction entities with
  | nil => rfl
  | cons first rest induction =>
    obtain ⟨fields, written, _, _, same⟩ := restores first List.mem_cons_self
    have others := induction fun entity inside => restores entity (.tail _ inside)
    rw [List.map_cons, written]
    show ofFields fields :: ((rest.map toJson).filterMap Json.fields?).map ofFields = _
    rw [same, others]

end Entities

section Values

variable {levels : Nat} (key : String) (required : Bool)

theorem takes_text (text : String) :
    Member.Takes levels ⟨key, required, Shape.string⟩ (some (.string text)) :=
  Member.takes_some rfl .string

theorem takes_optional
    {inner : Type}
    {shape : Shape}
    {toJson : inner → Json}
    {value : Option inner}
    (shaped : ∀ given, shape (toJson given) = none)
    (fits : ∀ given ∈ value, (toJson given).Fits levels) :
    Member.Takes levels ⟨key, false, Shape.optional shape⟩ (value.map toJson) where
  shape given present := by
    obtain ⟨found, _, rfl⟩ := Option.map_eq_some_iff.mp present
    exact Shape.optional_eq_none_iff.mpr (Or.inr (shaped found))
  fits given present := by
    obtain ⟨found, among, rfl⟩ := Option.map_eq_some_iff.mp present
    exact fits found among
  complete required := nomatch required

theorem takes_text? (text : Option String) :
    Member.Takes levels ⟨key, false, Shape.optional Shape.string⟩ (text.map Json.string) :=
  takes_optional key (fun _ => rfl) fun _ _ => .string

theorem takes_bool? (truth : Option Bool) :
    Member.Takes levels ⟨key, false, Shape.optional Shape.bool⟩ (truth.map Json.bool) :=
  takes_optional key (fun _ => rfl) fun _ _ => .bool

theorem takes_object?
    {properties : Option Properties}
    (fits : ∀ inner ∈ properties, (Json.object inner).Fits levels) :
    Member.Takes levels ⟨key, false, Shape.optional Shape.object⟩ (properties.map Json.object) :=
  takes_optional key (fun _ => rfl) fits

end Values

/-! ## Columns -/

namespace Column

def filling (column : Column) : Filling := [
  (⟨"name", true, Shape.string⟩, some (.string column.name)),
  (⟨"type", false, Shape.string⟩, some (.string column.type)),
  (⟨"properties", false, Shape.optional Shape.object⟩, column.properties.map Json.object),
  (⟨"relationship", false, Shape.optional Shape.string⟩, column.relationship.map Json.string),
  (⟨"expression", false, Shape.optional Shape.string⟩, column.expression.map Json.string),
  (⟨"isCalculated", false, Shape.optional Shape.bool⟩, column.isCalculated.map Json.bool)]

/-- The values in the properties and other members of a column nest at most so deep. -/
structure WellFormed (levels : Nat) (column : Column) : Prop where
  properties : ∀ inner ∈ column.properties, (Json.object inner).Fits levels
  extra : Kept column.filling.keys levels column.extra

theorem wellFormed_ofFields
    {levels : Nat}
    {fields : Properties}
    (fits : (Json.object fields).Fits (levels + 1)) :
    (ofFields fields).WellFormed levels where
  properties _ found := fits_of_object? fits found
  extra := kept_without fits _

theorem WellFormed.filled
    {levels : Nat}
    {column : Column}
    (wellFormed : column.WellFormed levels) :
    Filled levels column.filling column.extra where
  distinct := by
    show ["name", "type", "properties", "relationship", "expression", "isCalculated"].Nodup
    decide
  takes := by
    simp only [filling, List.forall_mem_cons]
    exact ⟨takes_text .., takes_text .., takes_object? _ wellFormed.properties, takes_text? ..,
      takes_text? .., takes_bool? .., List.forall_mem_nil _⟩
  kept := wellFormed.extra

theorem toJson_eq (column : Column) :
    column.toJson = .object (column.filling.fields ++ column.extra) := by
  simp [toJson, filling]

theorem reads (column : Column) : Reads column.filling column.extra ofFields column := by
  intro fields members others
  simp only [filling, List.forall_mem_cons] at members
  obtain ⟨name, type, properties, relationship, expression, calculated, _⟩ := members
  rw [ofFields, text_of_get? name, text_of_get? type, object?_of_get? properties,
    text?_of_get? relationship, text?_of_get? expression, bool?_of_get? calculated]
  exact congrArg _ others

theorem WellFormed.restores
    {levels : Nat}
    {column : Column}
    (wellFormed : column.WellFormed levels) :
    Restores (levels + 1) Shape.column ofFields toJson column :=
  wellFormed.filled.restores "Column" column.toJson_eq column.reads

end Column

/-! ## Models -/

namespace Model

def filling (model : Model) : Filling := [
  (⟨"name", true, Shape.string⟩, some (.string model.name)),
  (⟨"properties", false, Shape.optional Shape.object⟩, model.properties.map Json.object),
  (⟨"columns", false, Shape.arrayOf Shape.column⟩, some (.array (model.columns.map Column.toJson))),
  (⟨"primaryKey", false, Shape.optional Shape.string⟩, model.primaryKey.map Json.string)]

/-- A model with columns whose values nest at most so deep; its own may nest two levels deeper. -/
structure WellFormed (levels : Nat) (model : Model) : Prop where
  properties : ∀ inner ∈ model.properties, (Json.object inner).Fits (levels + 2)
  columns : ∀ column ∈ model.columns, column.WellFormed levels
  extra : Kept model.filling.keys (levels + 2) model.extra

theorem wellFormed_ofFields
    {levels : Nat}
    {fields : Properties}
    (fits : (Json.object fields).Fits (levels + 3)) :
    (ofFields fields).WellFormed levels where
  properties _ found := fits_of_object? fits found
  columns column inside := by
    obtain ⟨inner, found, rfl⟩ := List.mem_map.mp inside
    exact Column.wellFormed_ofFields (fits_of_mem_objects fits found)
  extra := kept_without fits _

variable {levels : Nat} {model : Model}

theorem WellFormed.restores_columns
    (wellFormed : model.WellFormed levels) :
    ∀ column ∈ model.columns,
      Restores (levels + 1) Shape.column Column.ofFields Column.toJson column :=
  fun column inside => (wellFormed.columns column inside).restores

theorem WellFormed.filled (wellFormed : model.WellFormed levels) :
    Filled (levels + 2) model.filling model.extra where
  distinct := by
    show ["name", "properties", "columns", "primaryKey"].Nodup
    decide
  takes := by
    simp only [filling, List.forall_mem_cons]
    exact ⟨takes_text .., takes_object? _ wellFormed.properties,
      takes_array wellFormed.restores_columns _, takes_text? .., List.forall_mem_nil _⟩
  kept := wellFormed.extra

theorem toJson_eq (model : Model) :
    model.toJson = .object (model.filling.fields ++ model.extra) := by
  simp [toJson, filling]

theorem WellFormed.reads (wellFormed : model.WellFormed levels) :
    Reads model.filling model.extra ofFields model := by
  intro fields members others
  simp only [filling, List.forall_mem_cons] at members
  obtain ⟨name, properties, columns, primaryKey, _⟩ := members
  rw [ofFields, text_of_get? name, object?_of_get? properties,
    objects_of_get? wellFormed.restores_columns columns, text?_of_get? primaryKey]
  exact congrArg _ others

theorem WellFormed.restores (wellFormed : model.WellFormed levels) :
    Restores (levels + 3) Shape.model ofFields toJson model :=
  wellFormed.filled.restores "Model" model.toJson_eq wellFormed.reads

end Model

/-! ## Relationships -/

theorem JoinType.eq_of_ofTag_eq_other
    {tag kept : String}
    (read : ofTag tag = .other kept) :
    kept = tag := by
  simp only [ofTag] at read
  split_ifs at read
  exact (JoinType.other.inj read).symm

theorem JoinType.ofTag_tag_ofTag (tag : String) : ofTag (ofTag tag).tag = ofTag tag := by
  cases read : ofTag tag with
  | manyToOne => decide +kernel
  | oneToMany => decide +kernel
  | oneToOne => decide +kernel
  | other kept =>
    obtain rfl := eq_of_ofTag_eq_other read
    exact read

theorem takes_pair
    {levels : Nat}
    (key first second : String) :
    Member.Takes (levels + 1) ⟨key, true, Shape.pair⟩
      (some (.array [.string first, .string second])) := by
  apply Member.takes_some rfl
  apply Json.FitsWith.array
  simp only [List.forall_mem_cons]
  exact ⟨.string, .string, List.forall_mem_nil _⟩

/-- The value of a text that is left out when it is empty. -/
def nonEmpty (text : String) : Option Json :=
  if text = "" then none else some (.string text)

theorem takes_nonEmpty
    {levels : Nat}
    (key text : String) :
    Member.Takes levels ⟨key, false, Shape.string⟩ (nonEmpty text) := by
  by_cases empty : text = ""
  · rw [nonEmpty, if_pos empty]
    exact ⟨nofun, nofun, nofun⟩
  · rw [nonEmpty, if_neg empty]
    exact takes_text key false text

theorem text_of_nonEmpty
    {fields : Properties}
    {key text : String}
    (found : fields.get? key = nonEmpty text) :
    fields.text key = text := by
  rw [Fields.text, found, nonEmpty]
  split
  · rename_i empty
    exact empty.symm
  · rfl

theorem texts_of_get?
    {fields : Properties}
    {key first second : String}
    (found : fields.get? key = some (.array [.string first, .string second])) :
    fields.texts key = [first, second] := by
  rw [Fields.texts, found]
  rfl

namespace Relationship

def filling (relationship : Relationship) : Filling := [
  (⟨"name", false, Shape.string⟩, nonEmpty relationship.name),
  (⟨"models", true, Shape.pair⟩,
    some (.array [.string relationship.first, .string relationship.second])),
  (⟨"joinType", true, Shape.string⟩, some (.string relationship.joinType.tag)),
  (⟨"condition", true, Shape.string⟩, some (.string relationship.condition))]

/-- A relationship with a join type that its tag stands for and values that nest so deep. -/
structure WellFormed (levels : Nat) (relationship : Relationship) : Prop where
  joinType : JoinType.ofTag relationship.joinType.tag = relationship.joinType
  extra : Kept relationship.filling.keys levels relationship.extra

theorem wellFormed_ofFields
    {levels : Nat}
    {fields : Properties}
    (fits : (Json.object fields).Fits (levels + 1)) :
    (ofFields fields).WellFormed levels where
  joinType := by
    -- The tag is brought to the surface first, so that no tag is compared while unifying.
    dsimp only [ofFields]
    exact JoinType.ofTag_tag_ofTag _
  extra := kept_without fits _

variable {levels : Nat} {relationship : Relationship}

theorem WellFormed.filled (wellFormed : relationship.WellFormed (levels + 1)) :
    Filled (levels + 1) relationship.filling relationship.extra where
  distinct := by
    show ["name", "models", "joinType", "condition"].Nodup
    decide
  takes := by
    simp only [filling, List.forall_mem_cons]
    exact ⟨takes_nonEmpty .., takes_pair .., takes_text .., takes_text .., List.forall_mem_nil _⟩
  kept := wellFormed.extra

theorem toJson_eq (relationship : Relationship) :
    relationship.toJson = .object (relationship.filling.fields ++ relationship.extra) := by
  by_cases empty : relationship.name = ""
  · simp [toJson, filling, nonEmpty, empty]
  · simp [toJson, filling, nonEmpty, empty]

theorem WellFormed.reads (wellFormed : relationship.WellFormed levels) :
    Reads relationship.filling relationship.extra ofFields relationship := by
  intro fields members others
  simp only [filling, List.forall_mem_cons] at members
  obtain ⟨name, models, joinType, condition, _⟩ := members
  rw [ofFields, text_of_nonEmpty name, texts_of_get? models, text_of_get? joinType,
    text_of_get? condition, wellFormed.joinType]
  exact congrArg _ others

theorem WellFormed.restores (wellFormed : relationship.WellFormed (levels + 1)) :
    Restores (levels + 2) Shape.relationship ofFields toJson relationship :=
  wellFormed.filled.restores "Relationship" relationship.toJson_eq wellFormed.reads

end Relationship

/-! ## Metrics -/

namespace MetricColumn

def filling (column : MetricColumn) : Filling := [
  (⟨"name", true, Shape.string⟩, some (.string column.name)),
  (⟨"type", false, Shape.string⟩, some (.string column.type)),
  (⟨"expression", false, Shape.optional Shape.string⟩, column.expression.map Json.string)]

/-- The values in a dimension or measure nest at most so deep. -/
structure WellFormed (levels : Nat) (column : MetricColumn) : Prop where
  extra : Kept column.filling.keys levels column.extra

theorem wellFormed_ofFields
    {levels : Nat}
    {fields : Properties}
    (fits : (Json.object fields).Fits (levels + 1)) :
    (ofFields fields).WellFormed levels where
  extra := kept_without fits _

variable {levels : Nat} {column : MetricColumn}

theorem WellFormed.filled (wellFormed : column.WellFormed levels) :
    Filled levels column.filling column.extra where
  distinct := by
    show ["name", "type", "expression"].Nodup
    decide
  takes := by
    simp only [filling, List.forall_mem_cons]
    exact ⟨takes_text .., takes_text .., takes_text? .., List.forall_mem_nil _⟩
  kept := wellFormed.extra

theorem toJson_eq (column : MetricColumn) :
    column.toJson = .object (column.filling.fields ++ column.extra) := by
  simp [toJson, filling]

theorem reads (column : MetricColumn) : Reads column.filling column.extra ofFields column := by
  intro fields members others
  simp only [filling, List.forall_mem_cons] at members
  obtain ⟨name, type, expression, _⟩ := members
  rw [ofFields, text_of_get? name, text_of_get? type, text?_of_get? expression]
  exact congrArg _ others

theorem WellFormed.restores (wellFormed : column.WellFormed levels) :
    Restores (levels + 1) Shape.metricColumn ofFields toJson column :=
  wellFormed.filled.restores "MetricColumn" column.toJson_eq column.reads

end MetricColumn

namespace Metric

def filling (metric : Metric) : Filling := [
  (⟨"name", true, Shape.string⟩, some (.string metric.name)),
  (⟨"baseObject", true, Shape.string⟩, some (.string metric.baseObject)),
  (⟨"dimension", false, Shape.arrayOf Shape.metricColumn⟩,
    some (.array (metric.dimension.map MetricColumn.toJson))),
  (⟨"measure", false, Shape.arrayOf Shape.metricColumn⟩,
    some (.array (metric.measure.map MetricColumn.toJson)))]

/-- A metric with columns whose values nest at most so deep; its own may nest deeper. -/
structure WellFormed (levels : Nat) (metric : Metric) : Prop where
  dimension : ∀ column ∈ metric.dimension, column.WellFormed levels
  measure : ∀ column ∈ metric.measure, column.WellFormed levels
  extra : Kept metric.filling.keys (levels + 2) metric.extra

theorem wellFormed_ofFields
    {levels : Nat}
    {fields : Properties}
    (fits : (Json.object fields).Fits (levels + 3)) :
    (ofFields fields).WellFormed levels where
  dimension column inside := by
    obtain ⟨inner, found, rfl⟩ := List.mem_map.mp inside
    exact MetricColumn.wellFormed_ofFields (fits_of_mem_objects fits found)
  measure column inside := by
    obtain ⟨inner, found, rfl⟩ := List.mem_map.mp inside
    exact MetricColumn.wellFormed_ofFields (fits_of_mem_objects fits found)
  extra := kept_without fits _

variable {levels : Nat} {metric : Metric}

theorem restores_metricColumns
    {columns : List MetricColumn}
    (wellFormed : ∀ column ∈ columns, column.WellFormed levels) :
    ∀ column ∈ columns,
      Restores (levels + 1) Shape.metricColumn MetricColumn.ofFields MetricColumn.toJson column :=
  fun column inside => (wellFormed column inside).restores

theorem WellFormed.filled (wellFormed : metric.WellFormed levels) :
    Filled (levels + 2) metric.filling metric.extra where
  distinct := by
    show ["name", "baseObject", "dimension", "measure"].Nodup
    decide
  takes := by
    simp only [filling, List.forall_mem_cons]
    exact ⟨takes_text .., takes_text ..,
      takes_array (restores_metricColumns wellFormed.dimension) _,
      takes_array (restores_metricColumns wellFormed.measure) _, List.forall_mem_nil _⟩
  kept := wellFormed.extra

theorem toJson_eq (metric : Metric) :
    metric.toJson = .object (metric.filling.fields ++ metric.extra) := by
  simp [toJson, filling]

theorem WellFormed.reads (wellFormed : metric.WellFormed levels) :
    Reads metric.filling metric.extra ofFields metric := by
  intro fields members others
  simp only [filling, List.forall_mem_cons] at members
  obtain ⟨name, baseObject, dimension, measure, _⟩ := members
  rw [ofFields, text_of_get? name, text_of_get? baseObject,
    objects_of_get? (restores_metricColumns wellFormed.dimension) dimension,
    objects_of_get? (restores_metricColumns wellFormed.measure) measure]
  exact congrArg _ others

theorem WellFormed.restores (wellFormed : metric.WellFormed levels) :
    Restores (levels + 3) Shape.metric ofFields toJson metric :=
  wellFormed.filled.restores "Metric" metric.toJson_eq wellFormed.reads

end Metric

/-! ## Views -/

namespace View

def filling (view : View) : Filling := [
  (⟨"name", true, Shape.string⟩, some (.string view.name)),
  (⟨"statement", true, Shape.string⟩, some (.string view.statement)),
  (⟨"properties", false, Shape.optional Shape.object⟩, view.properties.map Json.object)]

/-- The values in the properties and other members of a view nest at most so deep. -/
structure WellFormed (levels : Nat) (view : View) : Prop where
  properties : ∀ inner ∈ view.properties, (Json.object inner).Fits levels
  extra : Kept view.filling.keys levels view.extra

theorem wellFormed_ofFields
    {levels : Nat}
    {fields : Properties}
    (fits : (Json.object fields).Fits (levels + 1)) :
    (ofFields fields).WellFormed levels where
  properties _ found := fits_of_object? fits found
  extra := kept_without fits _

variable {levels : Nat} {view : View}

theorem WellFormed.filled (wellFormed : view.WellFormed levels) :
    Filled levels view.filling view.extra where
  distinct := by
    show ["name", "statement", "properties"].Nodup
    decide
  takes := by
    simp only [filling, List.forall_mem_cons]
    exact ⟨takes_text .., takes_text .., takes_object? _ wellFormed.properties,
      List.forall_mem_nil _⟩
  kept := wellFormed.extra

theorem toJson_eq (view : View) :
    view.toJson = .object (view.filling.fields ++ view.extra) := by
  simp [toJson, filling]

theorem reads (view : View) : Reads view.filling view.extra ofFields view := by
  intro fields members others
  simp only [filling, List.forall_mem_cons] at members
  obtain ⟨name, statement, properties, _⟩ := members
  rw [ofFields, text_of_get? name, text_of_get? statement, object?_of_get? properties]
  exact congrArg _ others

theorem WellFormed.restores (wellFormed : view.WellFormed levels) :
    Restores (levels + 1) Shape.view ofFields toJson view :=
  wellFormed.filled.restores "View" view.toJson_eq view.reads

end View

end SemanticIndex
