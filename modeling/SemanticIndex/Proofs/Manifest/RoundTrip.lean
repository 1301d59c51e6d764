import SemanticIndex.Description.Apply
import SemanticIndex.Proofs.Command.Running
import SemanticIndex.Proofs.Json.RoundTrip
import SemanticIndex.Proofs.Manifest.Canonical
import SemanticIndex.Proofs.Manifest.Entities

/-!
# Written manifests read back

A manifest that a text reads as is well formed when the doubles in the text are read back, and
descriptions keep it so.  Every text that is written for a well-formed manifest reads as the
manifest, among them what a command prints for a described one.
-/

namespace SemanticIndex

/-! ## Well-formed manifests -/

namespace Manifest

def filling (manifest : Manifest) : Filling := [
  (⟨"models", false, Shape.arrayOf Shape.model⟩,
    some (.array (manifest.models.map Model.toJson))),
  (⟨"relationships", false, Shape.arrayOf Shape.relationship⟩,
    some (.array (manifest.relationships.map Relationship.toJson))),
  (⟨"metrics", false, Shape.arrayOf Shape.metric⟩,
    some (.array (manifest.metrics.map Metric.toJson))),
  (⟨"views", false, Shape.arrayOf Shape.view⟩,
    some (.array (manifest.views.map View.toJson)))]

/-- A manifest with columns whose values nest at most so deep. -/
structure WellFormed (levels : Nat) (manifest : Manifest) : Prop where
  models : ∀ model ∈ manifest.models, model.WellFormed levels
  relationships : ∀ relationship ∈ manifest.relationships, relationship.WellFormed (levels + 2)
  metrics : ∀ metric ∈ manifest.metrics, metric.WellFormed levels
  views : ∀ view ∈ manifest.views, view.WellFormed (levels + 2)
  extra : Kept manifest.filling.keys (levels + 4) manifest.extra

theorem without_sections (manifest : Manifest) (fields : Properties) :
    fields.without sections = fields.without manifest.filling.keys := by
  apply Fields.without_congr
  intro key
  simp only [sections, filling, Filling.keys, List.map_cons, List.map_nil, List.mem_cons,
    List.not_mem_nil, or_false]
  tauto

variable {levels : Nat} {manifest : Manifest}

theorem wellFormed_ofFields
    {fields : Properties}
    (fits : (Json.object fields).Fits (levels + 5)) :
    (ofFields fields).WellFormed levels where
  models model inside := by
    obtain ⟨inner, found, rfl⟩ := List.mem_map.mp inside
    exact Model.wellFormed_ofFields (fits_of_mem_objects fits found)
  relationships relationship inside := by
    obtain ⟨inner, found, rfl⟩ := List.mem_map.mp inside
    exact Relationship.wellFormed_ofFields (fits_of_mem_objects fits found)
  metrics metric inside := by
    obtain ⟨inner, found, rfl⟩ := List.mem_map.mp inside
    exact Metric.wellFormed_ofFields (fits_of_mem_objects fits found)
  views view inside := by
    obtain ⟨inner, found, rfl⟩ := List.mem_map.mp inside
    exact View.wellFormed_ofFields (fits_of_mem_objects fits found)
  extra := by
    show Kept _ _ (fields.without sections)
    rw [without_sections (ofFields fields)]
    exact kept_without fits _

theorem toJson_eq (manifest : Manifest) :
    manifest.toJson = .object (manifest.filling.fields ++ manifest.extra) := by
  simp [toJson, filling]

namespace WellFormed

variable (wellFormed : manifest.WellFormed levels)

include wellFormed

theorem restores_models :
    ∀ model ∈ manifest.models,
      Restores (levels + 3) Shape.model Model.ofFields Model.toJson model :=
  fun model inside => (wellFormed.models model inside).restores

theorem restores_relationships :
    ∀ relationship ∈ manifest.relationships,
      Restores (levels + 3) Shape.relationship Relationship.ofFields Relationship.toJson
        relationship :=
  fun relationship inside => (wellFormed.relationships relationship inside).restores

theorem restores_metrics :
    ∀ metric ∈ manifest.metrics,
      Restores (levels + 3) Shape.metric Metric.ofFields Metric.toJson metric :=
  fun metric inside => (wellFormed.metrics metric inside).restores

theorem restores_views :
    ∀ view ∈ manifest.views, Restores (levels + 3) Shape.view View.ofFields View.toJson view :=
  fun view inside => (wellFormed.views view inside).restores

theorem filled : Filled (levels + 4) manifest.filling manifest.extra where
  distinct := by
    show ["models", "relationships", "metrics", "views"].Nodup
    decide
  takes := by
    simp only [filling, List.forall_mem_cons]
    exact ⟨takes_array wellFormed.restores_models _,
      takes_array wellFormed.restores_relationships _, takes_array wellFormed.restores_metrics _,
      takes_array wellFormed.restores_views _, List.forall_mem_nil _⟩
  kept := wellFormed.extra

theorem reads : Reads manifest.filling manifest.extra ofFields manifest := by
  intro fields members others
  simp only [filling, List.forall_mem_cons] at members
  obtain ⟨models, relationships, metrics, views, _⟩ := members
  rw [ofFields, objects_of_get? wellFormed.restores_models models,
    objects_of_get? wellFormed.restores_relationships relationships,
    objects_of_get? wellFormed.restores_metrics metrics,
    objects_of_get? wellFormed.restores_views views, without_sections manifest]
  exact congrArg _ others

theorem fits_toJson : manifest.toJson.Fits (levels + 5) := by
  rw [toJson_eq]
  exact wellFormed.filled.fits

end WellFormed

/-! ## Sections -/

variable {fields : Properties}

theorem supply_of_given
    {key : String}
    {value : Json}
    (found : fields.get? key = some value)
    (given : value ≠ .null) :
    supply fields key = fields := by
  rw [supply, found]
  cases value with
  | null => exact absurd rfl given
  | _ => rfl

/-- An object that has all sections is left as it is. -/
theorem foldl_supply_of_given
    {keys : List String}
    (given : ∀ key ∈ keys, ∃ value, fields.get? key = some value ∧ value ≠ .null) :
    keys.foldl supply fields = fields := by
  induction keys with
  | nil => rfl
  | cons first rest induction =>
    rw [List.forall_mem_cons] at given
    obtain ⟨⟨value, found, notNull⟩, given⟩ := given
    rw [List.foldl_cons, supply_of_given found notNull, induction given]

theorem fitsWith_supply
    {kind : Binary64 → Prop}
    (fits : (Json.object fields).FitsWith kind (levels + 2))
    (key : String) :
    (Json.object (supply fields key)).FitsWith kind (levels + 2) := by
  have empty : (Json.array []).FitsWith kind (levels + 1) := .array nofun
  unfold supply
  split
  · exact fitsWith_put fits empty
  · exact fitsWith_put fits empty
  · exact fits

theorem fitsWith_foldl_supply
    {kind : Binary64 → Prop}
    (fits : (Json.object fields).FitsWith kind (levels + 2))
    (keys : List String) :
    (Json.object (keys.foldl supply fields)).FitsWith kind (levels + 2) := by
  induction keys generalizing fields with
  | nil => exact fits
  | cons first rest induction => exact induction (fitsWith_supply fits first)

/-- A normalized value fits as the value of the text does: only empty sections are added to it. -/
theorem fitsWith_of_normalize
    {kind : Binary64 → Prop}
    {text : String}
    (fits : ∀ {value}, Json.read? text = some value → value.FitsWith kind Json.nestingLimit)
    (normalized : normalize text = .ok fields) :
    (Json.object fields).FitsWith kind Json.nestingLimit := by
  unfold normalize at normalized
  split at normalized
  · cases normalized
  · rename_i given read
    obtain rfl := Except.ok.inj normalized
    exact fitsWith_foldl_supply (fits read) sections
  · cases normalized

/-- How deep the values in columns may nest, which stand five levels below the root. -/
def columnLevels : Nat := 122

theorem nestingLimit_eq : Json.nestingLimit = columnLevels + 5 := rfl

theorem wellFormed_of_validate
    {text : String}
    (valid : validate text = .ok manifest)
    (numbers : Json.ReadsDoublesBack text) :
    manifest.WellFormed columnLevels := by
  obtain ⟨fields, normalized, _, rfl⟩ := validate_eq_ok_iff.mp valid
  have fits := fitsWith_of_normalize numbers.fits normalized
  rw [nestingLimit_eq] at fits
  exact wellFormed_ofFields fits

theorem foldl_supply_eq_self
    (members : ∀ entry ∈ manifest.filling, fields.get? entry.1.key = entry.2) :
    sections.foldl supply fields = fields := by
  simp only [filling, List.forall_mem_cons] at members
  obtain ⟨models, relationships, metrics, views, _⟩ := members
  apply foldl_supply_of_given
  simp [sections, models, views, relationships, metrics]

theorem WellFormed.validate_eq
    (wellFormed : manifest.WellFormed levels)
    {text : String}
    (read : Json.read? text = some manifest.toJson) :
    validate text = .ok manifest := by
  have filled := wellFormed.filled
  apply validate_eq_ok_iff.mpr
  refine ⟨_, ?_, filled.fieldFault_eq_none, wellFormed.reads _ filled.get?_eq filled.without_eq⟩
  -- All sections are written, so reading them back has none to supply.
  rw [normalize, read, toJson_eq]
  show Except.ok (sections.foldl supply _) = _
  rw [foldl_supply_eq_self filled.get?_eq]

end Manifest

/-! ## Described manifests -/

theorem fits_describeProperties
    {levels : Nat}
    {properties : Option Properties}
    (fits : ∀ inner ∈ properties, (Json.object inner).Fits (levels + 1))
    (description : String) :
    ∀ inner ∈ describeProperties properties description, (Json.object inner).Fits (levels + 1) := by
  intro inner found
  obtain rfl := Option.some.inj found
  apply fitsWith_put _ .string
  cases properties with
  | none => exact .object List.nodup_nil nofun
  | some present => exact fits present rfl

theorem Column.WellFormed.describe
    {levels : Nat}
    {column : Column}
    (wellFormed : column.WellFormed (levels + 1))
    (described : List ColumnDescription) :
    (column.describe described).WellFormed (levels + 1) := by
  unfold Column.describe
  split
  · exact ⟨fits_describeProperties wellFormed.properties _, wellFormed.extra⟩
  · exact wellFormed

theorem Model.WellFormed.describe
    {levels : Nat}
    {model : Model}
    (wellFormed : model.WellFormed (levels + 1))
    (described : ModelDescription) :
    (model.describe described).WellFormed (levels + 1) where
  properties := fits_describeProperties wellFormed.properties _
  columns column inside := by
    obtain ⟨given, found, rfl⟩ := List.mem_map.mp inside
    exact (wellFormed.columns given found).describe described.columns
  extra := wellFormed.extra

theorem Manifest.WellFormed.describe
    {levels : Nat}
    {manifest : Manifest}
    (wellFormed : manifest.WellFormed (levels + 1))
    (descriptions : Descriptions) :
    (manifest.describe descriptions).WellFormed (levels + 1) where
  models model inside := by
    obtain ⟨given, found, rfl⟩ := List.mem_map.mp inside
    have kept := wellFormed.models given found
    cases descriptions.find? given.name with
    | none => exact kept
    | some described => exact kept.describe described
  relationships := wellFormed.relationships
  metrics := wellFormed.metrics
  views := wellFormed.views
  extra := wellFormed.extra

/-! ## Texts of manifests -/

namespace Manifest

/-- Every text that is written for a manifest reads as the manifest. -/
structure ReadsBack (manifest : Manifest) : Prop where
  compact : validate manifest.toJson.compact = .ok manifest
  indented : validate manifest.toJson.indented = .ok manifest
  printed : validate (manifest.toJson.indented ++ "\n") = .ok manifest

theorem WellFormed.readsBack
    {manifest : Manifest}
    (wellFormed : manifest.WellFormed columnLevels) :
    manifest.ReadsBack := by
  have fits : manifest.toJson.Fits Json.nestingLimit := by
    rw [nestingLimit_eq]
    exact wellFormed.fits_toJson
  constructor
  · exact wellFormed.validate_eq (Json.read?_compact fits)
  · have read := Json.read?_indented fits [] nofun
    rw [String.ofList_nil, String.append_empty] at read
    exact wellFormed.validate_eq read
  · exact wellFormed.validate_eq (Json.read?_indented fits ['\n'] (by simp [Json.isSpace]))

/--
Every text that is written for an accepted manifest reads as the manifest, and so does every text
that is written for it with descriptions, such as the output of the command that applies a reply.
The doubles in the text are taken to be read back, which they are unless reading one of them misses
its last place.
-/
theorem readsBack_of_validate
    {text : String}
    {manifest : Manifest}
    (valid : validate text = .ok manifest)
    (numbers : Json.ReadsDoublesBack text) :
    manifest.ReadsBack ∧ (∀ descriptions, (manifest.describe descriptions).ReadsBack) ∧
      ∀ (directory : Directory) (file reply answer : String) (request : DescriptionRequest),
        directory.readText file = .ok text → directory.readText reply = .ok answer →
          ∃ outcome, (Directory.surroundings.run (.describe file reply request)).run directory =
              (outcome, directory) ∧ outcome.code = 0 ∧
            validate outcome.output = .ok (manifest.describe
              ((Reply.read answer).restrict (manifest.pick request.selected))) := by
  have wellFormed := wellFormed_of_validate valid numbers
  have described := fun descriptions => (wellFormed.describe descriptions).readsBack
  refine ⟨wellFormed.readsBack, described, ?_⟩
  intro directory file reply answer request read replied
  exact ⟨_, Directory.run_describe read valid replied request, rfl, (described _).printed⟩

/-- A text with nested values, a null, an unknown tag and keys that are not interpreted. -/
def shopText : String :=
  "\x7b\"models\":[\x7b\"name\":\"orders\",\"unit\":[1,-2.5,\x7b\"draft\":null\x7d],\"columns\":[" ++
  "\x7b\"unit\":7,\"name\":\"id\",\"properties\":null\x7d]\x7d]," ++
  "\"relationships\":[\x7b\"models\":[\"orders\",\"shops\"],\"joinType\":\"many\"," ++
  "\"condition\":\"a.b = c.d\"\x7d]\x7d"

/-- A directory with that text and a reply that describes its model. -/
def shopDirectory : Directory :=
  ((Directory.empty "").addText "shop.json" shopText).addText "reply.json"
    ("\x7b\"models\":[\x7b\"name\":\"orders\",\"properties\":" ++
      "\x7b\"description\":\"What was ordered\"\x7d\x7d]\x7d")

theorem readsBack_of_validate_shop :
    ∃ manifest outcome answer,
      validate shopText = .ok manifest ∧ manifest.ReadsBack ∧
      shopDirectory.readText "reply.json" = .ok answer ∧
      (Directory.surroundings.run (.describe "shop.json" "reply.json" ⟨["orders"], "", "de"⟩)).run
        shopDirectory = (outcome, shopDirectory) ∧
      validate outcome.output = .ok (manifest.describe
        ((Reply.read answer).restrict (manifest.pick ["orders"]))) := by
  have ⟨accepted, numbers⟩ : (validate shopText).isOk = true ∧ Json.ReadsDoublesBack shopText := by
    decide +kernel
  have read : shopDirectory.readText "shop.json" = .ok shopText := by decide +kernel
  have answered : (shopDirectory.readText "reply.json").isOk = true := by decide +kernel
  cases valid : validate shopText with
  | error error =>
    rw [valid] at accepted
    exact nomatch accepted
  | ok manifest =>
    cases replied : shopDirectory.readText "reply.json" with
    | error cause =>
      rw [replied] at answered
      exact nomatch answered
    | ok answer =>
      have ⟨back, _, prints⟩ := readsBack_of_validate valid numbers
      obtain ⟨outcome, ran, _, printed⟩ := prints _ _ _ _ ⟨["orders"], "", "de"⟩ read replied
      exact ⟨manifest, outcome, answer, rfl, back, rfl, ran, printed⟩

end Manifest

end SemanticIndex
