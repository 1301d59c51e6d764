import Mathlib.Data.List.Forall2
import SemanticIndex.Description.Request
import SemanticIndex.Proofs.Json.RoundTrip

/-!
# What a generator learns

Of a manifest a generator learns the selected models: their names, the names and types of their
columns with data, and the descriptions and display names of both.  Manifests that look alike in
this way are described by the same prompt and with the same outcome, whatever else they contain, and
a prompt tells no two other manifests alike.
-/

namespace SemanticIndex

/-! ## Looking alike -/

/-- Properties with the same description and display name; those that are no strings are empty. -/
structure LookAlike (properties other : Option Properties) : Prop where
  description : stringProperty properties "description" = stringProperty other "description"
  displayName : stringProperty properties "displayName" = stringProperty other "displayName"

/-- Columns with the same name, type, description and display name. -/
structure Column.LooksLike (column other : Column) : Prop where
  name : column.name = other.name
  type : column.type = other.type
  properties : LookAlike column.properties other.properties

/-- Models of one name whose columns with data look alike. -/
structure Model.LooksLike (model other : Model) : Prop where
  name : model.name = other.name
  columns : List.Forall₂ Column.LooksLike model.physicalColumns other.physicalColumns
  properties : LookAlike model.properties other.properties

/-- Manifests whose selected models look alike, one after the other. -/
def Manifest.LooksLike (manifest : Manifest) (selected : List String) (other : Manifest) : Prop :=
  List.Forall₂ Model.LooksLike (manifest.models.filter (·.name ∈ selected))
    (other.models.filter (·.name ∈ selected))

theorem map_eq_map_iff_forall₂
    {item result : Type}
    {view : item → result}
    {alike : item → item → Prop}
    (same : ∀ one other, view one = view other ↔ alike one other)
    {items others : List item} :
    items.map view = others.map view ↔ List.Forall₂ alike items others := by
  have relation : (fun one other => view one = view other) = alike := by
    funext one other
    exact propext (same one other)
  rw [← List.forall₂_eq_eq_eq, List.forall₂_map_left_iff, List.forall₂_map_right_iff, relation]

theorem PickedProperties.ofProperties_eq_iff {properties other : Option Properties} :
    ofProperties properties = ofProperties other ↔ LookAlike properties other := by
  rw [ofProperties, ofProperties, PickedProperties.mk.injEq]
  exact ⟨fun same => ⟨same.1, same.2⟩, fun alike => ⟨alike.description, alike.displayName⟩⟩

theorem PickedColumn.ofColumn_eq_iff (column other : Column) :
    ofColumn column = ofColumn other ↔ column.LooksLike other := by
  rw [ofColumn, ofColumn, PickedColumn.mk.injEq, PickedProperties.ofProperties_eq_iff]
  exact ⟨fun same => ⟨same.1, same.2.1, same.2.2⟩,
    fun alike => ⟨alike.name, alike.type, alike.properties⟩⟩

theorem PickedModel.ofModel_eq_iff (model other : Model) :
    ofModel model = ofModel other ↔ model.LooksLike other := by
  rw [ofModel, ofModel, PickedModel.mk.injEq, PickedProperties.ofProperties_eq_iff,
    map_eq_map_iff_forall₂ PickedColumn.ofColumn_eq_iff]
  exact ⟨fun same => ⟨same.1, same.2.1, same.2.2⟩,
    fun alike => ⟨alike.name, alike.columns, alike.properties⟩⟩

/-- The same models are picked from manifests that look alike, and from no others. -/
theorem Manifest.pick_eq_iff
    {manifest other : Manifest}
    {selected : List String} :
    manifest.pick selected = other.pick selected ↔ manifest.LooksLike selected other := by
  simp only [pick, List.contains_eq_mem]
  exact map_eq_map_iff_forall₂ PickedModel.ofModel_eq_iff

/-! ## Prompts -/

theorem PickedProperties.toJson_inj {one other : PickedProperties} :
    one.toJson = other.toJson ↔ one = other := by
  cases one
  cases other
  simp [toJson]

theorem PickedColumn.toJson_injective : Function.Injective PickedColumn.toJson := by
  rintro ⟨name, type, properties⟩ ⟨otherName, otherType, otherProperties⟩ same
  simpa [toJson, PickedProperties.toJson_inj] using same

theorem PickedModel.toJson_injective : Function.Injective PickedModel.toJson := by
  rintro ⟨name, columns, properties⟩ ⟨otherName, otherColumns, otherProperties⟩ same
  simpa [toJson, PickedProperties.toJson_inj, PickedColumn.toJson_injective.list_map.eq_iff]
    using same

theorem PickedModel.fits_toJson (model : PickedModel) : model.toJson.Fits (122 + 4) := by
  have properties {levels : Nat} (picked : PickedProperties) :
      picked.toJson.Fits (levels + 1) := by
    simp [PickedProperties.toJson, Fields.keys]
  have column (picked : PickedColumn) : picked.toJson.Fits (122 + 2) := by
    simp [PickedColumn.toJson, Fields.keys, properties]
  simp [toJson, Fields.keys, properties, column]

/-- The text of picked models tells them apart. -/
theorem pickedText_injective : Function.Injective pickedText := by
  intro one other same
  have read (picked : List PickedModel) :
      Json.read? (pickedText picked) = some (.array (picked.map (·.toJson))) := by
    have fits : (Json.array (picked.map (·.toJson))).Fits (126 + 1) := by
      simp [PickedModel.fits_toJson]
    exact Json.read?_compact fits
  have values := (read one).symm.trans ((congrArg Json.read? same).trans (read other))
  have elements := Json.array.inj (Option.some.inj values)
  exact PickedModel.toJson_injective.list_map elements

/-- Prompts about the same request differ exactly in the picked models. -/
theorem promptText_eq_iff
    {one other : List PickedModel}
    {prompt language : String} :
    promptText one prompt language = promptText other prompt language ↔ one = other := by
  constructor
  · intro same
    -- The picked models stand behind the prompt and before the language.
    unfold promptText at same
    rw [String.append_left_inj, String.append_left_inj, String.append_left_inj,
      String.append_left_inj, String.append_right_inj] at same
    exact pickedText_injective same
  · rintro rfl
    rfl

/-! ## Asking about manifests that look alike -/

/-- A generator that answers by what it is sent, and notes it. -/
def Generator.noting
    (answer : String → String → Except Error String) : Generator (List (String × String)) :=
  fun instructions prompt =>
    .ofFunction fun sent => (answer instructions prompt, sent ++ [(instructions, prompt)])

/-- A generator is sent the instructions and one prompt, whatever it answers. -/
theorem Generator.sent_describe_noting
    (answer : String → String → Except Error String)
    (manifest : Manifest)
    (request : DescriptionRequest)
    (sent : List (String × String)) :
    (((noting answer).describe manifest request).perform sent).2 =
      sent ++ [(instructions,
        promptText (manifest.pick request.selected) request.prompt request.language)] := by
  rw [describe, Action.perform_bind, noting, Action.perform_ofFunction]
  cases answer instructions (promptText (manifest.pick request.selected) request.prompt
    request.language) <;> rfl

/--
Manifests that look alike are asked about with the same instructions and prompt, and they get the
same descriptions or the same error from every generator.  Manifests that do not look alike get
different prompts.
-/
theorem Generator.describe_discreet
    (manifest other : Manifest)
    (request : DescriptionRequest) :
    (manifest.LooksLike request.selected other →
      (∀ {state : Type} (generator : Generator state) (initial : state),
        (generator.describe manifest request).perform initial =
          (generator.describe other request).perform initial) ∧
      ∀ answer, ∃ prompt outcome,
        ((noting answer).describe manifest request).perform [] =
            (outcome, [(instructions, prompt)]) ∧
          ((noting answer).describe other request).perform [] =
            (outcome, [(instructions, prompt)])) ∧
    (¬manifest.LooksLike request.selected other → ∀ answer,
      (((noting answer).describe manifest request).perform []).2 ≠
        (((noting answer).describe other request).perform []).2) := by
  constructor
  · intro alike
    have picked := Manifest.pick_eq_iff.mpr alike
    have same {state : Type} (generator : Generator state) :
        generator.describe manifest request = generator.describe other request := by
      rw [describe, describe, picked]
    refine ⟨fun generator initial => by rw [same], fun answer => ?_⟩
    have sent := sent_describe_noting answer manifest request []
    exact ⟨_, _, Prod.ext rfl sent, by rw [← same]; exact Prod.ext rfl sent⟩
  · intro different answer
    rw [sent_describe_noting, sent_describe_noting]
    intro sent
    apply different
    rw [← Manifest.pick_eq_iff, ← promptText_eq_iff]
    simpa using sent

/-- A manifest with orders, of which a generator learns the name and one column. -/
def shopManifest : Manifest where
  models := [
    ⟨"orders", some [("description", .integer 5), ("unit", .null)],
      [⟨"customer", "", none, some "placed_by", none, none, []⟩,
        ⟨"id", "INT", some [("displayName", .string "Number")], none, some "row()", none, []⟩],
      some "id", [("note", .null)]⟩,
    ⟨"customers", none, [⟨"id", "INT", none, none, none, none, []⟩], none, []⟩]
  relationships := [⟨"placed_by", "orders", "customers", .manyToOne, "", []⟩]
  metrics := []
  views := [⟨"all", "SELECT 1", none, []⟩]
  extra := []

/-- A manifest with nothing but that. -/
def bareManifest : Manifest where
  models := [
    ⟨"orders", none, [⟨"id", "INT", some [("displayName", .string "Number")], none, none, none, []⟩],
      none, []⟩]
  relationships := []
  metrics := []
  views := []
  extra := []

theorem Generator.describe_discreet_orders :
    shopManifest.LooksLike ["orders"] bareManifest ∧
      ∀ answer, ∃ prompt outcome,
        ((noting answer).describe shopManifest ⟨["orders"], "a shop", "en"⟩).perform [] =
            (outcome, [(instructions, prompt)]) ∧
          ((noting answer).describe bareManifest ⟨["orders"], "a shop", "en"⟩).perform [] =
            (outcome, [(instructions, prompt)]) := by
  have alike : shopManifest.LooksLike ["orders"] bareManifest :=
    .cons ⟨rfl, .cons ⟨rfl, rfl, ⟨rfl, rfl⟩⟩ .nil, ⟨rfl, rfl⟩⟩ .nil
  have same := (describe_discreet shopManifest bareManifest ⟨["orders"], "a shop", "en"⟩).1 alike
  exact ⟨alike, same.2⟩

end SemanticIndex
