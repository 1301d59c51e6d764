import SemanticIndex.Manifest.Reader
import SemanticIndex.Manifest.Writer
import SemanticIndex.Proofs.Manifest.Shape

/-!
# The canonical form of a manifest

What is written for a manifest is the object it was read from in canonical form.  At every level
the interpreted members come first, each under its own rule: it is kept, supplied, left out or
spelled anew.  All other members follow as they were.
-/

namespace SemanticIndex

namespace Canonical

/-! ## Rules for members -/

/-- What becomes of a member, given its value if it is present. -/
abbrev Treatment := Option Json → Option Json

def keep : Treatment := id

/-- An absent member gets a value. -/
def supply (value : Json) : Treatment
  | none => some value
  | present => present

def dropNull : Treatment
  | some .null => none
  | other => other

def dropEmptyText : Treatment
  | some (.string "") => none
  | other => other

/-- Every element of a list is brought into its own form; an absent list is supplied empty. -/
def eachElement (form : Json → Json) : Treatment
  | none => some (.array [])
  | some (.array elements) => some (.array (elements.map form))
  | other => other

/-- The tags of the known join types. -/
def knownTags : List String :=
  ["MANY_TO_ONE", "ONE_TO_MANY", "ONE_TO_ONE"]

/-- A tag is another one up to the blanks around it and the case of its ASCII letters. -/
def SameTag (tag known : String) : Prop :=
  (Text.trim tag.toList).map Char.toLower = known.toList.map Char.toLower

instance (tag known : String) : Decidable (SameTag tag known) :=
  inferInstanceAs (Decidable (_ = _))

/-- The spelling of a known tag, and any other tag itself. -/
def spellTag (tag : String) : String :=
  (knownTags.find? fun known => SameTag tag known).getD tag

def respellTag : Treatment
  | some (.string tag) => some (.string (spellTag tag))
  | other => other

/-- The interpreted members of an object, in the order in which they are written. -/
abbrev Rules := List (String × Treatment)

/-- What becomes of the member under a key. -/
def treated (fields : Properties) (rule : String × Treatment) : Properties :=
  ((rule.2 (fields.get? rule.1)).map fun value => (rule.1, value)).toList

/-- The interpreted members by their rules, and the other ones behind them. -/
def fields (rules : Rules) (given : Properties) : Properties :=
  rules.flatMap (treated given) ++ given.without (rules.map Prod.fst)

/-- An object by the rules for its members. -/
def object (rules : Rules) : Json → Json
  | .object given => .object (fields rules given)
  | other => other

theorem key_of_mem_treated
    {given : Properties}
    {rule : String × Treatment}
    {field : String × Json}
    (inside : field ∈ treated given rule) :
    field.1 = rule.1 := by
  obtain ⟨value, _, rfl⟩ := Option.map_eq_some_iff.mp (Option.mem_toList.mp inside)
  rfl

/-- The members without a rule stay as they are. -/
theorem without_fields (rules : Rules) (given : Properties) :
    (fields rules given).without (rules.map Prod.fst) = given.without (rules.map Prod.fst) := by
  rw [fields, Fields.without_append, Fields.without_eq_nil, Fields.without_eq_self,
    List.nil_append]
  · intro field inside
    exact (Fields.mem_without.mp inside).2
  · intro field inside
    obtain ⟨rule, known, treated⟩ := List.mem_flatMap.mp inside
    rw [key_of_mem_treated treated]
    exact List.mem_map_of_mem known

theorem get?_treated (given : Properties) (rule : String × Treatment) :
    (treated given rule).get? rule.1 = rule.2 (given.get? rule.1) := by
  unfold treated
  cases rule.2 (given.get? rule.1) <;> simp [Fields.get?]

theorem get?_treated_of_ne
    {key : String}
    {rule : String × Treatment}
    (other : key ≠ rule.1)
    (given : Properties) :
    (treated given rule).get? key = none := by
  apply Fields.get?_eq_none
  intro inside
  obtain ⟨field, found, rfl⟩ := List.mem_map.mp inside
  exact other (key_of_mem_treated found)

theorem get?_flatMap_of_not_mem
    {key : String}
    {rules : Rules}
    (unruled : key ∉ rules.map Prod.fst)
    (given : Properties) :
    Fields.get? (rules.flatMap (treated given)) key = none := by
  induction rules with
  | nil => rfl
  | cons first rest induction =>
    rw [List.map_cons, List.mem_cons, not_or] at unruled
    rw [List.flatMap_cons, Fields.get?_append, get?_treated_of_ne unruled.1,
      induction unruled.2]
    rfl

theorem get?_flatMap_of_mem
    {rules : Rules}
    (distinct : (rules.map Prod.fst).Nodup)
    {rule : String × Treatment}
    (known : rule ∈ rules)
    (given : Properties) :
    Fields.get? (rules.flatMap (treated given)) rule.1 = rule.2 (given.get? rule.1) := by
  induction rules with
  | nil => cases known
  | cons first rest induction =>
    obtain ⟨fresh, distinct⟩ := List.nodup_cons.mp distinct
    rw [List.flatMap_cons, Fields.get?_append]
    rcases List.mem_cons.mp known with rfl | later
    · rw [get?_treated, get?_flatMap_of_not_mem fresh, Option.or_none]
    · have other : rule.1 ≠ first.1 := by
        intro same
        exact fresh (same ▸ List.mem_map_of_mem later)
      rw [get?_treated_of_ne other, Option.none_or, induction distinct later]

/-- A member with a rule is what the rule makes of it. -/
theorem get?_fields
    {rules : Rules}
    (distinct : (rules.map Prod.fst).Nodup)
    {rule : String × Treatment}
    (known : rule ∈ rules)
    (given : Properties) :
    (fields rules given).get? rule.1 = rule.2 (given.get? rule.1) := by
  have others : (given.without (rules.map Prod.fst)).get? rule.1 = none :=
    Fields.get?_without_of_mem (List.mem_map_of_mem known)
  rw [fields, Fields.get?_append, others, Option.or_none, get?_flatMap_of_mem distinct known]

/-! ## The levels of a manifest -/

def column : Rules := [
  ("name", keep),
  ("type", supply (.string "")),
  ("properties", dropNull),
  ("relationship", dropNull),
  ("expression", dropNull),
  ("isCalculated", dropNull)]

def model : Rules := [
  ("name", keep),
  ("properties", dropNull),
  ("columns", eachElement (object column)),
  ("primaryKey", dropNull)]

def relationship : Rules := [
  ("name", dropEmptyText),
  ("models", keep),
  ("joinType", respellTag),
  ("condition", keep)]

/-- A dimension or measure. -/
def metricColumn : Rules := [
  ("name", keep),
  ("type", supply (.string "")),
  ("expression", dropNull)]

def metric : Rules := [
  ("name", keep),
  ("baseObject", keep),
  ("dimension", eachElement (object metricColumn)),
  ("measure", eachElement (object metricColumn))]

def view : Rules := [
  ("name", keep),
  ("statement", keep),
  ("properties", dropNull)]

def manifest : Rules := [
  ("models", eachElement (object model)),
  ("relationships", eachElement (object relationship)),
  ("metrics", eachElement (object metric)),
  ("views", eachElement (object view))]

/-! ## Join types -/

theorem toNat_toUpper (character : Char) :
    character.toUpper.toNat =
      if 97 ≤ character.toNat ∧ character.toNat ≤ 122 then character.toNat - 32
      else character.toNat := by
  delta Char.toUpper
  simp only [UInt32.le_iff_toNat_le]
  split
  · rename_i lower
    have range : 97 ≤ character.toNat ∧ character.toNat ≤ 122 := lower
    rw [if_pos range]
    show (character.val + ('A'.val - 'a'.val)).toNat = _
    rw [UInt32.toNat_add]
    show (character.toNat + 4294967264) % 2 ^ 32 = _
    omega
  · rename_i other
    exact (if_neg other).symm

theorem toNat_toLower (character : Char) :
    character.toLower.toNat =
      if 65 ≤ character.toNat ∧ character.toNat ≤ 90 then character.toNat + 32
      else character.toNat := by
  delta Char.toLower
  simp only [ge_iff_le, UInt32.le_iff_toNat_le]
  split
  · rename_i upper
    have range : 65 ≤ character.toNat ∧ character.toNat ≤ 90 := upper
    rw [if_pos range]
    show (character.val + ('a'.val - 'A'.val)).toNat = _
    rw [UInt32.toNat_add]
    show (character.toNat + 32) % 2 ^ 32 = _
    omega
  · rename_i other
    exact (if_neg other).symm

theorem toUpper_eq_iff (one other : Char) :
    one.toUpper = other.toUpper ↔ one.toLower = other.toLower := by
  rw [← Char.toNat_inj, ← Char.toNat_inj, toNat_toUpper, toNat_toUpper, toNat_toLower,
    toNat_toLower]
  grind

theorem map_toUpper_eq_iff (one other : List Char) :
    one.map Char.toUpper = other.map Char.toUpper ↔
      one.map Char.toLower = other.map Char.toLower := by
  induction one generalizing other with
  | nil => cases other <;> simp
  | cons first rest induction =>
    cases other with
    | nil => simp
    | cons second others => simp [toUpper_eq_iff, induction]

theorem upperTag_eq_iff
    (known : String)
    (upper : known.toList.map Char.toUpper = known.toList)
    (tag : String) :
    String.ofList ((Text.trim tag.toList).map Char.toUpper) = known ↔ SameTag tag known := by
  rw [SameTag, ← map_toUpper_eq_iff, upper, ← String.toList_inj, String.toList_ofList]

theorem tag_ofTag (tag : String) : (JoinType.ofTag tag).tag = spellTag tag := by
  have manyToOne := upperTag_eq_iff "MANY_TO_ONE" (by decide) tag
  have oneToMany := upperTag_eq_iff "ONE_TO_MANY" (by decide) tag
  have oneToOne := upperTag_eq_iff "ONE_TO_ONE" (by decide) tag
  simp only [JoinType.ofTag, manyToOne, oneToMany, oneToOne]
  simp only [spellTag, knownTags, List.find?_cons, List.find?_nil]
  by_cases first : SameTag tag "MANY_TO_ONE"
  · simp [first, JoinType.tag]
  by_cases second : SameTag tag "ONE_TO_MANY"
  · simp [first, second, JoinType.tag]
  by_cases third : SameTag tag "ONE_TO_ONE"
  · simp [first, second, third, JoinType.tag]
  · simp [first, second, third, JoinType.tag]

/-! ## Members of their shapes -/

/-- A member has its shape if it is present. -/
def Shaped (given : Properties) (key : String) (shape : Shape) : Prop :=
  ∀ value, given.get? key = some value → shape value = none

variable {given : Properties} (key : String)

theorem treated_supply_text (shaped : Shaped given key Shape.string) :
    treated given (key, supply (.string "")) = [(key, .string (given.text key))] := by
  unfold treated Fields.text
  cases found : given.get? key with
  | none => simp [supply]
  | some value =>
    obtain ⟨text, rfl⟩ := Shape.string_eq_none_iff.mp (shaped value found)
    simp [supply, Json.text?]

theorem treated_keep_text
    (shaped : Shaped given key Shape.string)
    (present : ∃ value, given.get? key = some value) :
    treated given (key, keep) = [(key, .string (given.text key))] := by
  obtain ⟨value, found⟩ := present
  obtain ⟨text, rfl⟩ := Shape.string_eq_none_iff.mp (shaped value found)
  simp [treated, keep, Fields.text, found, Json.text?]

theorem treated_dropEmptyText (shaped : Shaped given key Shape.string) :
    treated given (key, dropEmptyText) =
      if given.text key = "" then [] else [(key, .string (given.text key))] := by
  unfold treated Fields.text
  cases found : given.get? key with
  | none => simp [dropEmptyText]
  | some value =>
    obtain ⟨text, rfl⟩ := Shape.string_eq_none_iff.mp (shaped value found)
    by_cases empty : text = ""
    · simp [dropEmptyText, Json.text?, empty]
    · simp [dropEmptyText, Json.text?, empty]

theorem treated_respellTag
    (shaped : Shaped given key Shape.string)
    (present : ∃ value, given.get? key = some value) :
    treated given (key, respellTag) =
      [(key, .string (JoinType.ofTag (given.text key)).tag)] := by
  obtain ⟨value, found⟩ := present
  obtain ⟨text, rfl⟩ := Shape.string_eq_none_iff.mp (shaped value found)
  simp [treated, respellTag, Fields.text, found, Json.text?, tag_ofTag]

theorem treated_keep_pair
    (shaped : Shaped given key Shape.pair)
    (present : ∃ value, given.get? key = some value) :
    treated given (key, keep) = [(key, .array [
      .string (((given.texts key)[0]?).getD ""), .string (((given.texts key)[1]?).getD "")])] := by
  obtain ⟨value, found⟩ := present
  obtain ⟨first, second, rfl⟩ := Shape.pair_eq_none_iff.mp (shaped value found)
  simp [treated, keep, Fields.texts, found, Json.text?, Json.elements?]

theorem dropNull_of_ne
    {value : Json}
    (other : value ≠ .null) :
    dropNull (some value) = some value := by
  unfold dropNull
  split
  · rename_i null
    exact absurd (Option.some.inj null) other
  · rfl

theorem treated_dropNull
    {member : Type}
    {shape : Shape}
    {toJson : member → Json}
    {read : Json → Option member}
    (shaped : Shaped given key (Shape.optional shape))
    (reads : ∀ value, shape value = none → ∃ found, value = toJson found ∧ read value = some found)
    (noNull : read .null = none) :
    treated given (key, dropNull) =
      optionalField key toJson ((given.get? key).bind read) := by
  unfold treated
  cases found : given.get? key with
  | none => rfl
  | some value =>
    rcases Shape.optional_eq_none_iff.mp (shaped value found) with rfl | fits
    · simp [dropNull, noNull, optionalField]
    · obtain ⟨member, rfl, same⟩ := reads value fits
      have notNull : toJson member ≠ .null := by
        intro null
        rw [null, noNull] at same
        cases same
      simp [dropNull_of_ne notNull, same, optionalField]

theorem treated_dropNull_text (shaped : Shaped given key (Shape.optional Shape.string)) :
    treated given (key, dropNull) = optionalField key Json.string (given.text? key) := by
  apply treated_dropNull key shaped _ rfl
  intro value fits
  obtain ⟨text, rfl⟩ := Shape.string_eq_none_iff.mp fits
  exact ⟨text, rfl, rfl⟩

theorem treated_dropNull_bool (shaped : Shaped given key (Shape.optional Shape.bool)) :
    treated given (key, dropNull) = optionalField key Json.bool (given.bool? key) := by
  apply treated_dropNull key shaped _ rfl
  intro value fits
  obtain ⟨truth, rfl⟩ := Shape.bool_eq_none_iff.mp fits
  exact ⟨truth, rfl, rfl⟩

theorem treated_dropNull_object (shaped : Shaped given key (Shape.optional Shape.object)) :
    treated given (key, dropNull) = optionalField key Json.object (given.object? key) := by
  apply treated_dropNull key shaped _ rfl
  intro value fits
  obtain ⟨inner, rfl⟩ := Shape.object_eq_none_iff.mp fits
  exact ⟨inner, rfl, rfl⟩

/-- An entity of this shape is written as the object it is read from, by the rules. -/
def Writes
    {entity : Type}
    (shape : Shape)
    (rules : Rules)
    (ofFields : Properties → entity)
    (toJson : entity → Json) : Prop :=
  ∀ value, shape value = none →
    ∃ given, value = .object given ∧ toJson (ofFields given) = object rules value

theorem treated_eachElement
    {entity : Type}
    {shape : Shape}
    {rules : Rules}
    {ofFields : Properties → entity}
    {toJson : entity → Json}
    (writes : Writes shape rules ofFields toJson)
    (shaped : Shaped given key (Shape.arrayOf shape)) :
    treated given (key, eachElement (object rules)) =
      [(key, .array (((given.objects key).map ofFields).map toJson))] := by
  unfold treated Fields.objects
  cases found : given.get? key with
  | none => simp [eachElement]
  | some value =>
    obtain ⟨elements, rfl, fits⟩ := Shape.arrayOf_eq_none_iff.mp (shaped value found)
    have same : elements.map (object rules) =
        ((elements.filterMap Json.fields?).map ofFields).map toJson := by
      clear found shaped
      induction elements with
      | nil => rfl
      | cons first rest induction =>
        obtain ⟨inner, rfl, written⟩ := writes first (fits first List.mem_cons_self)
        rw [List.map_cons, ← written, induction fun element inside => fits element (.tail _ inside)]
        rfl
    simp [eachElement, same, Json.elements?]

/-! ## Entities -/

theorem shaped_of_fieldFault
    {members : List Member}
    (fault : Shape.fieldFault members given = none)
    {key : String}
    {required : Bool}
    {shape : Shape}
    (known : members.find? (·.key == key) = some ⟨key, required, shape⟩) :
    Shaped given key shape :=
  fun _ found => Shape.shape_of_get? fault known found

theorem exists_get?_of_absence
    {members : List Member}
    (complete : Shape.absence members given = none)
    {key : String}
    {shape : Shape}
    (known : members.find? (·.key == key) = some ⟨key, true, shape⟩) :
    ∃ value, given.get? key = some value :=
  Shape.exists_get?_of_required complete (List.mem_of_find?_eq_some known) rfl

theorem column_writes : Writes Shape.column column Column.ofFields Column.toJson := by
  intro value fits
  obtain ⟨given, rfl, fault, complete⟩ := Shape.entity_eq_none_iff.mp fits
  have name := treated_keep_text "name"
    (shaped_of_fieldFault fault rfl) (exists_get?_of_absence complete rfl)
  have type := treated_supply_text "type" (shaped_of_fieldFault fault rfl)
  have properties := treated_dropNull_object "properties" (shaped_of_fieldFault fault rfl)
  have relationship := treated_dropNull_text "relationship" (shaped_of_fieldFault fault rfl)
  have expression := treated_dropNull_text "expression" (shaped_of_fieldFault fault rfl)
  have calculated := treated_dropNull_bool "isCalculated" (shaped_of_fieldFault fault rfl)
  refine ⟨given, rfl, ?_⟩
  simp only [object, fields, column, List.flatMap_cons, List.flatMap_nil, name, type, properties,
    relationship, expression, calculated, Column.toJson, Column.ofFields, List.map_cons,
    List.map_nil, List.append_assoc, List.append_nil, List.cons_append, List.nil_append]

theorem model_writes : Writes Shape.model model Model.ofFields Model.toJson := by
  intro value fits
  obtain ⟨given, rfl, fault, complete⟩ := Shape.entity_eq_none_iff.mp fits
  have name := treated_keep_text "name"
    (shaped_of_fieldFault fault rfl) (exists_get?_of_absence complete rfl)
  have properties := treated_dropNull_object "properties" (shaped_of_fieldFault fault rfl)
  have columns := treated_eachElement "columns" column_writes
    (shaped_of_fieldFault fault rfl)
  have primaryKey := treated_dropNull_text "primaryKey" (shaped_of_fieldFault fault rfl)
  refine ⟨given, rfl, ?_⟩
  simp only [object, fields, model, List.flatMap_cons, List.flatMap_nil, name, properties, columns,
    primaryKey, Model.toJson, Model.ofFields, List.map_cons, List.map_nil, List.append_assoc,
    List.append_nil, List.cons_append, List.nil_append]

theorem relationship_writes :
    Writes Shape.relationship relationship Relationship.ofFields Relationship.toJson := by
  intro value fits
  obtain ⟨given, rfl, fault, complete⟩ := Shape.entity_eq_none_iff.mp fits
  have name := treated_dropEmptyText "name" (shaped_of_fieldFault fault rfl)
  have models := treated_keep_pair "models"
    (shaped_of_fieldFault fault rfl) (exists_get?_of_absence complete rfl)
  have joinType := treated_respellTag "joinType"
    (shaped_of_fieldFault fault rfl) (exists_get?_of_absence complete rfl)
  have condition := treated_keep_text "condition"
    (shaped_of_fieldFault fault rfl) (exists_get?_of_absence complete rfl)
  refine ⟨given, rfl, ?_⟩
  simp only [object, fields, relationship, List.flatMap_cons, List.flatMap_nil, name, models,
    joinType, condition, Relationship.toJson, Relationship.ofFields, List.map_cons, List.map_nil,
    List.append_assoc, List.append_nil, List.cons_append, List.nil_append]
  rfl

theorem metricColumn_writes :
    Writes Shape.metricColumn metricColumn MetricColumn.ofFields MetricColumn.toJson := by
  intro value fits
  obtain ⟨given, rfl, fault, complete⟩ := Shape.entity_eq_none_iff.mp fits
  have name := treated_keep_text "name"
    (shaped_of_fieldFault fault rfl) (exists_get?_of_absence complete rfl)
  have type := treated_supply_text "type" (shaped_of_fieldFault fault rfl)
  have expression := treated_dropNull_text "expression" (shaped_of_fieldFault fault rfl)
  refine ⟨given, rfl, ?_⟩
  simp only [object, fields, metricColumn, List.flatMap_cons, List.flatMap_nil, name, type,
    expression, MetricColumn.toJson, MetricColumn.ofFields, List.map_cons, List.map_nil,
    List.append_nil, List.cons_append, List.nil_append]

theorem metric_writes : Writes Shape.metric metric Metric.ofFields Metric.toJson := by
  intro value fits
  obtain ⟨given, rfl, fault, complete⟩ := Shape.entity_eq_none_iff.mp fits
  have name := treated_keep_text "name"
    (shaped_of_fieldFault fault rfl) (exists_get?_of_absence complete rfl)
  have baseObject := treated_keep_text "baseObject"
    (shaped_of_fieldFault fault rfl) (exists_get?_of_absence complete rfl)
  have dimension := treated_eachElement "dimension" metricColumn_writes
    (shaped_of_fieldFault fault rfl)
  have measure := treated_eachElement "measure" metricColumn_writes
    (shaped_of_fieldFault fault rfl)
  refine ⟨given, rfl, ?_⟩
  simp only [object, fields, metric, List.flatMap_cons, List.flatMap_nil, name, baseObject,
    dimension, measure, Metric.toJson, Metric.ofFields, List.map_cons, List.map_nil,
    List.append_nil, List.cons_append, List.nil_append]

theorem view_writes : Writes Shape.view view View.ofFields View.toJson := by
  intro value fits
  obtain ⟨given, rfl, fault, complete⟩ := Shape.entity_eq_none_iff.mp fits
  have name := treated_keep_text "name"
    (shaped_of_fieldFault fault rfl) (exists_get?_of_absence complete rfl)
  have statement := treated_keep_text "statement"
    (shaped_of_fieldFault fault rfl) (exists_get?_of_absence complete rfl)
  have properties := treated_dropNull_object "properties" (shaped_of_fieldFault fault rfl)
  refine ⟨given, rfl, ?_⟩
  simp only [object, fields, view, List.flatMap_cons, List.flatMap_nil, name, statement,
    properties, View.toJson, View.ofFields, List.map_cons, List.map_nil, List.append_nil,
    List.cons_append, List.nil_append]

theorem manifest_writes
    {given : Properties}
    (fault : Shape.manifestFault given = none) :
    (Manifest.ofFields given).toJson = .object (fields manifest given) := by
  have models := treated_eachElement "models" model_writes
    (shaped_of_fieldFault fault rfl)
  have relationships := treated_eachElement "relationships" relationship_writes
    (shaped_of_fieldFault fault rfl)
  have metrics := treated_eachElement "metrics" metric_writes
    (shaped_of_fieldFault fault rfl)
  have views := treated_eachElement "views" view_writes
    (shaped_of_fieldFault fault rfl)
  have same : given.without Manifest.sections =
      given.without ["models", "relationships", "metrics", "views"] := by
    apply Fields.without_congr
    intro key
    simp only [Manifest.sections, List.mem_cons, List.not_mem_nil, or_false]
    grind
  simp only [fields, manifest, List.flatMap_cons, List.flatMap_nil, models, relationships,
    metrics, views, Manifest.toJson, Manifest.ofFields, List.map_cons, List.map_nil, same,
    List.append_nil, List.cons_append, List.nil_append]

end Canonical

/-! ## Manifests -/

theorem Manifest.validate_eq_ok_iff
    {text : String}
    {manifest : Manifest} :
    validate text = .ok manifest ↔
      ∃ fields, normalize text = .ok fields ∧ Shape.manifestFault fields = none ∧
        ofFields fields = manifest := by
  rw [validate]
  cases normalize text with
  | error error => simp [bind, Except.bind]
  | ok fields =>
    cases fault : Shape.manifestFault fields <;> simp [bind, Except.bind, fault]

/-- What is written for an accepted manifest is what its text normalizes to, in canonical form. -/
theorem Manifest.toJson_eq_canonical
    {text : String}
    {manifest : Manifest}
    (valid : validate text = .ok manifest) :
    ∃ fields, normalize text = .ok fields ∧
      manifest.toJson = .object (Canonical.fields Canonical.manifest fields) := by
  obtain ⟨fields, normalized, fits, rfl⟩ := validate_eq_ok_iff.mp valid
  exact ⟨fields, normalized, Canonical.manifest_writes fits⟩

/-- A text with members out of order, a null, an absent type and a tag in small letters. -/
def Manifest.ordersText : String :=
  "\x7b\"note\":7,\"models\":[\x7b\"label\":null,\"columns\":[" ++
  "\x7b\"hint\":[],\"expression\":null,\"name\":\"id\"\x7d]," ++
  "\"name\":\"orders\"\x7d],\"relationships\":[" ++
  "\x7b\"condition\":\"a.x = b.y\",\"joinType\":\" many_to_one\"," ++
  "\"models\":[\"a\",\"b\"],\"name\":\"\"\x7d]\x7d"

/-- The canonical form of that text. -/
def Manifest.ordersCanonical : String :=
  "\x7b\"models\":[\x7b\"name\":\"orders\",\"columns\":[" ++
  "\x7b\"name\":\"id\",\"type\":\"\",\"hint\":[]\x7d],\"label\":null\x7d]," ++
  "\"relationships\":[\x7b\"models\":[\"a\",\"b\"]," ++
  "\"joinType\":\"MANY_TO_ONE\",\"condition\":\"a.x = b.y\"\x7d]," ++
  "\"metrics\":[],\"views\":[],\"note\":7\x7d"

theorem Manifest.toJson_eq_canonical_orders :
    ∃ manifest fields, validate ordersText = .ok manifest ∧ normalize ordersText = .ok fields ∧
      manifest.toJson = .object (Canonical.fields Canonical.manifest fields) ∧
      manifest.toJson.compact = ordersCanonical := by
  have accepted : (validate ordersText).toOption.map (·.toJson.compact) = some ordersCanonical := by
    decide +kernel
  cases valid : validate ordersText with
  | error error =>
    rw [valid] at accepted
    exact nomatch accepted
  | ok manifest =>
    rw [valid] at accepted
    obtain ⟨fields, normalized, canonical⟩ := toJson_eq_canonical valid
    exact ⟨manifest, fields, rfl, normalized, canonical, Option.some.inj accepted⟩

end SemanticIndex
