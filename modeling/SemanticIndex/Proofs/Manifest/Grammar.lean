import Mathlib.Tactic.MkIffOfInductiveProp
import SemanticIndex.Proofs.Manifest.RoundTrip

/-!
# The grammar of manifests

Which objects describe a manifest is said here by what stands under the interpreted keys of every
level: whether a key may be absent, whether it may be null and what its value is.  A text is
accepted exactly when it reads as an object that, with all its sections, belongs to this grammar.

Keys that are not interpreted play no part.  Without them, at any level, the same departure is
found or none.
-/

namespace SemanticIndex

namespace Grammar

/-! ## Kinds of values -/

/-- A set of JSON values. -/
abbrev Kind := Json → Prop

def IsText : Kind := fun value => ∃ text, value = .string text

/-- A truth value. -/
def IsTruth : Kind := fun value => ∃ truth, value = .bool truth

/-- An object of any keys and values. -/
def IsObject : Kind := fun value => ∃ fields, value = .object fields

/-- An array of exactly two strings. -/
def IsPair : Kind := fun value => ∃ first second, value = .array [.string first, .string second]

/-- Null or a value of the kind. -/
def Nullable (kind : Kind) : Kind := fun value => value = .null ∨ kind value

/-- An array whose elements are all of the kind. -/
def IsList (kind : Kind) : Kind := fun value =>
  ∃ elements, value = .array elements ∧ ∀ element ∈ elements, kind element

/-- An object whose fields have a property. -/
def Describes (entity : Properties → Prop) : Kind := fun value =>
  ∃ fields, value = .object fields ∧ entity fields

/-- Under the key stands a value of the kind. -/
def Required (fields : Properties) (key : String) (kind : Kind) : Prop :=
  ∃ value, fields.get? key = some value ∧ kind value

/-- The key is absent, or a value of the kind stands under it. -/
def Optional (fields : Properties) (key : String) (kind : Kind) : Prop :=
  ∀ value, fields.get? key = some value → kind value

/-! ## Entities -/

@[mk_iff]
structure IsColumn (fields : Properties) : Prop where
  name : Required fields "name" IsText
  type : Optional fields "type" IsText
  properties : Optional fields "properties" (Nullable IsObject)
  relationship : Optional fields "relationship" (Nullable IsText)
  expression : Optional fields "expression" (Nullable IsText)
  isCalculated : Optional fields "isCalculated" (Nullable IsTruth)

@[mk_iff]
structure IsModel (fields : Properties) : Prop where
  name : Required fields "name" IsText
  properties : Optional fields "properties" (Nullable IsObject)
  columns : Optional fields "columns" (IsList (Describes IsColumn))
  primaryKey : Optional fields "primaryKey" (Nullable IsText)

@[mk_iff]
structure IsRelationship (fields : Properties) : Prop where
  name : Optional fields "name" IsText
  models : Required fields "models" IsPair
  joinType : Required fields "joinType" IsText
  condition : Required fields "condition" IsText

/-- A dimension or measure. -/
@[mk_iff]
structure IsMetricColumn (fields : Properties) : Prop where
  name : Required fields "name" IsText
  type : Optional fields "type" IsText
  expression : Optional fields "expression" (Nullable IsText)

@[mk_iff]
structure IsMetric (fields : Properties) : Prop where
  name : Required fields "name" IsText
  baseObject : Required fields "baseObject" IsText
  dimension : Optional fields "dimension" (IsList (Describes IsMetricColumn))
  measure : Optional fields "measure" (IsList (Describes IsMetricColumn))

@[mk_iff]
structure IsView (fields : Properties) : Prop where
  name : Required fields "name" IsText
  statement : Required fields "statement" IsText
  properties : Optional fields "properties" (Nullable IsObject)

/-- The fields of a manifest, all sections among them. -/
@[mk_iff]
structure IsManifest (fields : Properties) : Prop where
  models : Required fields "models" (IsList (Describes IsModel))
  relationships : Required fields "relationships" (IsList (Describes IsRelationship))
  metrics : Required fields "metrics" (IsList (Describes IsMetric))
  views : Required fields "views" (IsList (Describes IsView))

/-! ## Shapes check kinds -/

/-- Of the values that a text can read as, a shape lets through those of a kind. -/
def Checks (shape : Shape) (kind : Kind) : Prop :=
  ∀ (levels : Nat) (value : Json), value.FitsWith Binary64.Canonical levels →
    (shape value = none ↔ kind value)

section Checks

variable {shape : Shape} {kind : Kind}

theorem checks_string : Checks Shape.string IsText :=
  fun _ _ _ => Shape.string_eq_none_iff

theorem checks_bool : Checks Shape.bool IsTruth :=
  fun _ _ _ => Shape.bool_eq_none_iff

theorem checks_object : Checks Shape.object IsObject :=
  fun _ _ _ => Shape.object_eq_none_iff

theorem checks_pair : Checks Shape.pair IsPair :=
  fun _ _ _ => Shape.pair_eq_none_iff

theorem Checks.optional (checks : Checks shape kind) :
    Checks (Shape.optional shape) (Nullable kind) := by
  intro levels value fits
  rw [Shape.optional_eq_none_iff, checks levels value fits, Nullable]

theorem Checks.arrayOf (checks : Checks shape kind) :
    Checks (Shape.arrayOf shape) (IsList kind) := by
  intro levels value fits
  rw [Shape.arrayOf_eq_none_iff, IsList]
  apply exists_congr
  intro elements
  apply and_congr_right
  rintro rfl
  cases fits with
  | array fits =>
    apply forall₂_congr
    intro element inside
    exact checks _ element (fits element inside)

/-- The fields of an object obey a member. -/
def Obeys (fields : Properties) (member : Member) : Prop :=
  (∀ value, fields.get? member.key = some value → member.shape value = none) ∧
    (member.required = true → ∃ value, fields.get? member.key = some value)

variable {levels : Nat} {fields : Properties} {members : List Member}

theorem forall_obeys_nil : (∀ member ∈ [], Obeys fields member) ↔ True := by simp

theorem find?_of_distinct
    (distinct : (members.map Member.key).Nodup)
    {member : Member}
    (known : member ∈ members) :
    members.find? (·.key == member.key) = some member := by
  cases found : members.find? (·.key == member.key) with
  | none => simpa using List.find?_eq_none.mp found member known
  | some other =>
    have same : other.key = member.key := by simpa using List.find?_some found
    rw [List.inj_on_of_nodup_map distinct (List.mem_of_find?_eq_some found) known same]

/-- Nothing departs in the fields of an object exactly when they obey all members. -/
theorem faultless_iff_obeys
    (fits : (Json.object fields).FitsWith Binary64.Canonical levels)
    (distinct : (members.map Member.key).Nodup) :
    Shape.fieldFault members fields = none ∧ Shape.absence members fields = none ↔
      ∀ member ∈ members, Obeys fields member := by
  constructor
  · rintro ⟨fault, complete⟩ member known
    refine ⟨fun value found => ?_, fun required => ?_⟩
    · exact Shape.shape_of_get? fault (find?_of_distinct distinct known) found
    · exact Shape.exists_get?_of_required complete known required
  · intro obeys
    cases fits with
    | object distinctFields _ =>
      constructor
      · apply List.findSome?_eq_none_iff.mpr
        intro field inside
        cases found : members.find? (·.key == field.1) with
        | none => rfl
        | some member =>
          have same : member.key = field.1 := by simpa using List.find?_some found
          apply (obeys member (List.mem_of_find?_eq_some found)).1
          rw [same]
          exact Fields.get?_of_mem distinctFields inside
      · apply List.findSome?_eq_none_iff.mpr
        intro member known
        cases required : member.required with
        | false => rfl
        | true =>
          obtain ⟨value, found⟩ := (obeys member known).2 required
          rw [found]
          rfl

theorem fitsWith_of_get?
    (fits : (Json.object fields).FitsWith Binary64.Canonical levels)
    {key : String}
    {value : Json}
    (found : fields.get? key = some value) :
    ∃ inner, value.FitsWith Binary64.Canonical inner := by
  cases fits with
  | object _ fits => exact ⟨_, fits (key, value) (Fields.mem_of_get? found)⟩

theorem Checks.obeys_required
    (checks : Checks shape kind)
    (fits : (Json.object fields).FitsWith Binary64.Canonical levels)
    (key : String) :
    Obeys fields ⟨key, true, shape⟩ ↔ Required fields key kind := by
  constructor
  · rintro ⟨shaped, present⟩
    obtain ⟨value, found⟩ := present rfl
    obtain ⟨inner, fitsValue⟩ := fitsWith_of_get? fits found
    exact ⟨value, found, (checks inner value fitsValue).mp (shaped value found)⟩
  · rintro ⟨value, found, ofKind⟩
    refine ⟨?_, fun _ => ⟨value, found⟩⟩
    intro other same
    obtain rfl := Option.some.inj (found.symm.trans same)
    obtain ⟨inner, fitsValue⟩ := fitsWith_of_get? fits found
    exact (checks inner value fitsValue).mpr ofKind

theorem Checks.obeys_optional
    (checks : Checks shape kind)
    (fits : (Json.object fields).FitsWith Binary64.Canonical levels)
    (key : String) :
    Obeys fields ⟨key, false, shape⟩ ↔ Optional fields key kind := by
  have each (value : Json) (found : fields.get? key = some value) :
      shape value = none ↔ kind value := by
    obtain ⟨inner, fitsValue⟩ := fitsWith_of_get? fits found
    exact checks inner value fitsValue
  constructor
  · rintro ⟨shaped, _⟩ value found
    exact (each value found).mp (shaped value found)
  · intro ofKind
    exact ⟨fun value found => (each value found).mpr (ofKind value found), nofun⟩

theorem checks_entity
    {name : String}
    {entity : Properties → Prop}
    (distinct : (members.map Member.key).Nodup)
    (obeys : ∀ (levels : Nat) (fields : Properties),
      (Json.object fields).FitsWith Binary64.Canonical levels →
        ((∀ member ∈ members, Obeys fields member) ↔ entity fields)) :
    Checks (Shape.entity name members) (Describes entity) := by
  intro levels value fits
  rw [Shape.entity_eq_none_iff, Describes]
  apply exists_congr
  intro fields
  apply and_congr_right
  rintro rfl
  rw [faultless_iff_obeys fits distinct, obeys levels fields fits]

end Checks

theorem checks_column : Checks Shape.column (Describes IsColumn) := by
  apply checks_entity (by decide)
  intro levels fields fits
  rw [isColumn_iff]
  simp only [List.forall_mem_cons, forall_obeys_nil, and_true,
    checks_string.obeys_required fits, checks_string.obeys_optional fits,
    checks_object.optional.obeys_optional fits, checks_string.optional.obeys_optional fits,
    checks_bool.optional.obeys_optional fits]

theorem checks_model : Checks Shape.model (Describes IsModel) := by
  apply checks_entity (by decide)
  intro levels fields fits
  rw [isModel_iff]
  simp only [List.forall_mem_cons, forall_obeys_nil, and_true,
    checks_string.obeys_required fits, checks_object.optional.obeys_optional fits,
    checks_column.arrayOf.obeys_optional fits, checks_string.optional.obeys_optional fits]

theorem checks_relationship : Checks Shape.relationship (Describes IsRelationship) := by
  apply checks_entity (by decide)
  intro levels fields fits
  rw [isRelationship_iff]
  simp only [List.forall_mem_cons, forall_obeys_nil, and_true,
    checks_string.obeys_required fits, checks_string.obeys_optional fits,
    checks_pair.obeys_required fits]

theorem checks_metricColumn : Checks Shape.metricColumn (Describes IsMetricColumn) := by
  apply checks_entity (by decide)
  intro levels fields fits
  rw [isMetricColumn_iff]
  simp only [List.forall_mem_cons, forall_obeys_nil, and_true,
    checks_string.obeys_required fits, checks_string.obeys_optional fits,
    checks_string.optional.obeys_optional fits]

theorem checks_metric : Checks Shape.metric (Describes IsMetric) := by
  apply checks_entity (by decide)
  intro levels fields fits
  rw [isMetric_iff]
  simp only [List.forall_mem_cons, forall_obeys_nil, and_true,
    checks_string.obeys_required fits, checks_metricColumn.arrayOf.obeys_optional fits]

theorem checks_view : Checks Shape.view (Describes IsView) := by
  apply checks_entity (by decide)
  intro levels fields fits
  rw [isView_iff]
  simp only [List.forall_mem_cons, forall_obeys_nil, and_true,
    checks_string.obeys_required fits, checks_object.optional.obeys_optional fits]

/-- In an object that has all sections nothing departs exactly when it is in the grammar. -/
theorem manifestFault_eq_none_iff
    {levels : Nat}
    {fields : Properties}
    (fits : (Json.object fields).FitsWith Binary64.Canonical levels)
    (supplied : ∀ key ∈ Manifest.sections, key ∈ fields.keys) :
    Shape.manifestFault fields = none ↔ IsManifest fields := by
  have complete : Shape.absence Shape.manifestMembers fields = none := by
    simp [Shape.absence, Shape.manifestMembers]
  have present (key : String) (kind : Kind) (isSection : key ∈ Manifest.sections) :
      Optional fields key kind ↔ Required fields key kind := by
    obtain ⟨value, found⟩ := Fields.exists_get?_of_mem_keys (supplied key isSection)
    simp [Optional, Required, found]
  have faultless := @faultless_iff_obeys _ _ Shape.manifestMembers fits (by decide)
  rw [isManifest_iff, ← present "models" _ (by decide), ← present "relationships" _ (by decide),
    ← present "metrics" _ (by decide), ← present "views" _ (by decide)]
  rw [complete, eq_self, and_true] at faultless
  rw [Shape.manifestFault, faultless]
  simp only [Shape.manifestMembers, List.forall_mem_cons, forall_obeys_nil, and_true,
    checks_model.arrayOf.obeys_optional fits, checks_relationship.arrayOf.obeys_optional fits,
    checks_metric.arrayOf.obeys_optional fits, checks_view.arrayOf.obeys_optional fits]

/-! ## Interpreted members only -/

/-- What becomes of the values of the interpreted members. -/
abbrev Bareness := List (String × (Json → Json))

/-- The interpreted members with their values made bare. -/
def bareFields (bareness : Bareness) (fields : Properties) : Properties :=
  fields.filterMap fun field =>
    (bareness.find? (·.1 == field.1)).map fun member => (field.1, member.2 field.2)

def bareObject (bareness : Bareness) : Json → Json
  | .object fields => .object (bareFields bareness fields)
  | other => other

def bareElements (bare : Json → Json) : Json → Json
  | .array elements => .array (elements.map bare)
  | other => other

def bareColumn : Json → Json :=
  bareObject [("name", id), ("type", id), ("properties", id), ("relationship", id),
    ("expression", id), ("isCalculated", id)]

def bareModel : Json → Json :=
  bareObject [("name", id), ("properties", id), ("columns", bareElements bareColumn),
    ("primaryKey", id)]

def bareRelationship : Json → Json :=
  bareObject [("name", id), ("models", id), ("joinType", id), ("condition", id)]

def bareMetricColumn : Json → Json :=
  bareObject [("name", id), ("type", id), ("expression", id)]

def bareMetric : Json → Json :=
  bareObject [("name", id), ("baseObject", id), ("dimension", bareElements bareMetricColumn),
    ("measure", bareElements bareMetricColumn)]

def bareView : Json → Json :=
  bareObject [("name", id), ("statement", id), ("properties", id)]

/-- The fields of a manifest without the keys that are not interpreted, at any level. -/
def bareManifest : Properties → Properties :=
  bareFields [("models", bareElements bareModel),
    ("relationships", bareElements bareRelationship), ("metrics", bareElements bareMetric),
    ("views", bareElements bareView)]

theorem get?_bareFields (bareness : Bareness) (fields : Properties) (key : String) :
    (bareFields bareness fields).get? key =
      (bareness.find? (·.1 == key)).bind fun bare => (fields.get? key).map bare.2 := by
  unfold bareFields
  induction fields with
  | nil => cases bareness.find? (·.1 == key) <;> rfl
  | cons field rest induction =>
    rw [List.filterMap_cons]
    by_cases named : field.1 = key
    · subst named
      cases kept : bareness.find? (·.1 == field.1) with
      | none => rw [kept] at induction; exact induction
      | some bare => simp [Fields.get?]
    · cases kept : bareness.find? (·.1 == field.1) with
      | none => simp [Fields.get?, named, induction]
      | some bare => simp [Fields.get?, named, induction]

/-- A shape finds the same departure, or none, in what is left of a value. -/
def Overlooks (shape : Shape) (bare : Json → Json) : Prop :=
  ∀ value, shape (bare value) = shape value

theorem overlooks_id (shape : Shape) : Overlooks shape id :=
  fun _ => rfl

theorem Overlooks.arrayOf
    {shape : Shape}
    {bare : Json → Json}
    (overlooks : Overlooks shape bare) :
    Overlooks (Shape.arrayOf shape) (bareElements bare) := by
  intro value
  cases value with
  | array elements =>
    rw [bareElements, Shape.arrayOf, Shape.arrayOf, List.findSome?_map]
    congr 1
    funext element
    exact overlooks element
  | _ => rfl

/-- Members and what becomes of their values, key by key. -/
def Pairs (members : List Member) (bareness : Bareness) : Prop :=
  List.Forall₂ (fun member bare => member.key = bare.1 ∧ Overlooks member.shape bare.2)
    members bareness

section Pairs

variable {members : List Member} {bareness : Bareness} (pairs : Pairs members bareness)

include pairs

theorem Pairs.find?_cases (key : String) :
    (members.find? (·.key == key) = none ∧ bareness.find? (·.1 == key) = none) ∨
      ∃ member bare, members.find? (·.key == key) = some member ∧
        bareness.find? (·.1 == key) = some bare ∧ Overlooks member.shape bare.2 := by
  induction pairs with
  | nil => exact .inl ⟨rfl, rfl⟩
  | @cons member bare _ _ alike _ induction =>
    by_cases named : member.key = key
    · have bareNamed := alike.1 ▸ named
      exact .inr ⟨member, bare, by simp [named], by simp [bareNamed], alike.2⟩
    · have bareNamed := alike.1 ▸ named
      simpa [List.find?_cons, named, bareNamed] using induction

theorem Pairs.fieldFault_eq (fields : Properties) :
    Shape.fieldFault members (bareFields bareness fields) = Shape.fieldFault members fields := by
  unfold Shape.fieldFault bareFields
  induction fields with
  | nil => rfl
  | cons field rest induction =>
    rcases pairs.find?_cases field.1 with ⟨unknown, dropped⟩ | ⟨member, bare, known, kept, same⟩
    · rw [List.filterMap_cons, dropped, List.findSome?_cons, unknown]
      exact induction
    · rw [List.filterMap_cons, kept, List.findSome?_cons, known]
      simp only [Option.map_some, List.findSome?_cons, known, Option.bind_some, same field.2,
        induction]

theorem Pairs.isNone_get?
    {member : Member}
    (known : member ∈ members)
    (fields : Properties) :
    ((bareFields bareness fields).get? member.key).isNone =
      (fields.get? member.key).isNone := by
  rcases pairs.find?_cases member.key with ⟨unknown, _⟩ | ⟨_, bare, _, kept, _⟩
  · exact absurd (beq_self_eq_true member.key) (List.find?_eq_none.mp unknown member known)
  · rw [get?_bareFields, kept, Option.bind_some, Option.isNone_map]

theorem Pairs.absence_eq (fields : Properties) :
    Shape.absence members (bareFields bareness fields) = Shape.absence members fields := by
  have same (member : Member) (known : member ∈ members) := pairs.isNone_get? known fields
  clear pairs
  unfold Shape.absence
  induction members with
  | nil => rfl
  | cons member rest induction =>
    rw [List.forall_mem_cons] at same
    rw [List.findSome?_cons, List.findSome?_cons, same.1, induction same.2]

theorem Pairs.entity (name : String) :
    Overlooks (Shape.entity name members) (bareObject bareness) := by
  intro value
  cases value with
  | object fields =>
    show (Shape.fieldFault _ _).or _ = _
    rw [pairs.fieldFault_eq, pairs.absence_eq]
    rfl
  | _ => rfl

end Pairs

theorem overlooks_column : Overlooks Shape.column bareColumn := by
  apply Pairs.entity
  simp [Pairs, overlooks_id]

theorem overlooks_model : Overlooks Shape.model bareModel := by
  apply Pairs.entity
  simp [Pairs, overlooks_id, overlooks_column.arrayOf]

theorem overlooks_relationship : Overlooks Shape.relationship bareRelationship := by
  apply Pairs.entity
  simp [Pairs, overlooks_id]

theorem overlooks_metricColumn : Overlooks Shape.metricColumn bareMetricColumn := by
  apply Pairs.entity
  simp [Pairs, overlooks_id]

theorem overlooks_metric : Overlooks Shape.metric bareMetric := by
  apply Pairs.entity
  simp [Pairs, overlooks_id, overlooks_metricColumn.arrayOf]

theorem overlooks_view : Overlooks Shape.view bareView := by
  apply Pairs.entity
  simp [Pairs, overlooks_id]

/-- The departure of a manifest is found without the keys that are not interpreted. -/
theorem manifestFault_bareManifest (fields : Properties) :
    Shape.manifestFault (bareManifest fields) = Shape.manifestFault fields := by
  apply Pairs.fieldFault_eq
  simp [Pairs, Shape.manifestMembers, overlooks_model.arrayOf, overlooks_relationship.arrayOf,
    overlooks_metric.arrayOf, overlooks_view.arrayOf]

end Grammar

/-! ## Texts -/

namespace Manifest

theorem normalize_eq_ok_iff
    {text : String}
    {fields : Properties} :
    normalize text = .ok fields ↔
      ∃ given, Json.read? text = some (.object given) ∧ sections.foldl supply given = fields := by
  unfold normalize
  split <;> simp_all

theorem keys_supply (fields : Properties) (key : String) :
    (supply fields key).keys =
      if key ∈ fields.keys then fields.keys else fields.keys ++ [key] := by
  have put {new : Json} : (fields.put key new).keys =
      if key ∈ fields.keys then fields.keys else fields.keys ++ [key] := by
    split
    · rename_i present
      exact Fields.keys_put_of_mem present
    · rename_i absent
      rw [Fields.put_of_not_mem absent, Fields.keys, List.map_append]
      rfl
  unfold supply
  split
  · exact put
  · exact put
  · rename_i found
    have present : key ∈ fields.keys := List.mem_map_of_mem (Fields.mem_of_get? found)
    rw [if_pos present]

/-- Sections that were not given come last, in their own order. -/
theorem keys_foldl_supply
    {fields : Properties}
    {keys : List String}
    (distinct : keys.Nodup) :
    (keys.foldl supply fields).keys = fields.keys ++ keys.filter (· ∉ fields.keys) := by
  induction keys generalizing fields with
  | nil => simp
  | cons first rest induction =>
    obtain ⟨fresh, distinct⟩ := List.nodup_cons.mp distinct
    rw [List.foldl_cons, induction distinct, keys_supply]
    by_cases present : first ∈ fields.keys
    · simp [present]
    · rw [if_neg present, List.append_assoc, List.singleton_append,
        List.filter_cons_of_pos (by simpa using present)]
      congr 2
      apply List.filter_congr
      intro key inside
      have differ : key ≠ first := fun same => fresh (same ▸ inside)
      simp [differ]

theorem nodup_sections : sections.Nodup := by
  decide

theorem mem_keys_of_normalize
    {text : String}
    {fields : Properties}
    (normalized : normalize text = .ok fields) :
    ∀ key ∈ sections, key ∈ fields.keys := by
  obtain ⟨given, _, rfl⟩ := normalize_eq_ok_iff.mp normalized
  intro key isSection
  rw [keys_foldl_supply nodup_sections, List.mem_append, List.mem_filter]
  by_cases present : key ∈ Fields.keys given
  · exact .inl present
  · exact .inr ⟨isSection, by simpa using present⟩

theorem isManifest_of_normalize_iff
    {text : String}
    {fields : Properties}
    (normalized : normalize text = .ok fields) :
    Grammar.IsManifest fields ↔ Shape.manifestFault fields = none :=
  (Grammar.manifestFault_eq_none_iff (fitsWith_of_normalize Json.fitsWith_of_read? normalized)
    (mem_keys_of_normalize normalized)).symm

theorem validate_of_not_object
    {text : String}
    (notObject : ∀ given, Json.read? text ≠ some (.object given)) :
    ∃ cause, validate text = .error (.malformedInput cause) := by
  unfold validate normalize
  split
  · exact ⟨_, rfl⟩
  · rename_i given read
    exact absurd read (notObject given)
  · exact ⟨_, rfl⟩

/-- What becomes of an object depends on its departure from the shape only. -/
theorem validate_of_normalize
    {text : String}
    {fields : Properties}
    (normalized : normalize text = .ok fields) :
    validate text =
      match Shape.manifestFault fields with
      | some fault => .error (.schema fault)
      | none => .ok (ofFields fields) := by
  rw [validate, normalized]
  rfl

/-- The three ways in which a text is judged. -/
theorem validate_cases (text : String) :
    ((∀ given, Json.read? text ≠ some (.object given)) ∧
      ∃ cause, validate text = .error (.malformedInput cause)) ∨
    ∃ given fields, Json.read? text = some (.object given) ∧ normalize text = .ok fields ∧
      (Grammar.IsManifest fields ∧ validate text = .ok (ofFields fields) ∨
        ¬Grammar.IsManifest fields ∧ ∃ fault, validate text = .error (.schema fault)) := by
  by_cases isObject : ∃ given, Json.read? text = some (.object given)
  · obtain ⟨given, read⟩ := isObject
    have normalized := normalize_eq_ok_iff.mpr ⟨given, read, rfl⟩
    refine .inr ⟨given, _, read, normalized, ?_⟩
    rw [isManifest_of_normalize_iff normalized, validate_of_normalize normalized]
    cases Shape.manifestFault (sections.foldl supply given) with
    | none => exact .inl ⟨rfl, rfl⟩
    | some fault => exact .inr ⟨nofun, fault, rfl⟩
  · rw [not_exists] at isObject
    exact .inl ⟨isObject, validate_of_not_object isObject⟩

/-- Texts that agree but for keys that are not interpreted are refused for the same reason. -/
theorem validate_eq_error_iff_of_bareManifest_eq
    {text other : String}
    {fields others : Properties}
    (normalized : normalize text = .ok fields)
    (otherNormalized : normalize other = .ok others)
    (bare : Grammar.bareManifest fields = Grammar.bareManifest others)
    (error : Error) :
    validate text = .error error ↔ validate other = .error error := by
  have sameFault : Shape.manifestFault fields = Shape.manifestFault others := by
    rw [← Grammar.manifestFault_bareManifest, bare, Grammar.manifestFault_bareManifest]
  rw [validate_of_normalize normalized, validate_of_normalize otherNormalized, sameFault]
  cases Shape.manifestFault others <;> simp

/--
A text is accepted exactly when it is an object that belongs to the grammar once it has all
sections.  It is malformed exactly when it is no object, every other refusal is a departure from
the grammar, and nothing is decided by keys that are not interpreted.
-/
theorem validate_grammar (text : String) :
    ((∃ manifest, validate text = .ok manifest) ↔
      ∃ given fields, Json.read? text = some (.object given) ∧ normalize text = .ok fields ∧
        Grammar.IsManifest fields) ∧
    ((∃ cause, validate text = .error (.malformedInput cause)) ↔
      ∀ given, Json.read? text ≠ some (.object given)) ∧
    ((∃ fault, validate text = .error (.schema fault)) ↔
      ∃ given fields, Json.read? text = some (.object given) ∧ normalize text = .ok fields ∧
        ¬Grammar.IsManifest fields) ∧
    (∀ error, validate text = .error error →
      (∃ cause, error = .malformedInput cause) ∨ ∃ fault, error = .schema fault) ∧
    ∀ other fields others, normalize text = .ok fields → normalize other = .ok others →
      Grammar.bareManifest fields = Grammar.bareManifest others →
        ∀ error, validate text = .error error ↔ validate other = .error error := by
  rcases validate_cases text with
    ⟨notObject, cause, refused⟩ |
      ⟨given, fields, read, normalized, ⟨grammar, accepted⟩ | ⟨departs, fault, refused⟩⟩
  · refine ⟨?_, ?_, ?_, ?_, fun _ _ _ => validate_eq_error_iff_of_bareManifest_eq⟩ <;>
      simp [refused, notObject]
  · refine ⟨?_, ?_, ?_, ?_, fun _ _ _ => validate_eq_error_iff_of_bareManifest_eq⟩ <;>
      simp [accepted, read, normalized, grammar]
  · refine ⟨?_, ?_, ?_, ?_, fun _ _ _ => validate_eq_error_iff_of_bareManifest_eq⟩ <;>
      simp [refused, read, normalized, departs]

end Manifest

end SemanticIndex
