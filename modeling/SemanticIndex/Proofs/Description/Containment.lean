import Mathlib.Data.List.Forall2
import SemanticIndex.Command.Surroundings
import SemanticIndex.Proofs.Description.Restriction
import SemanticIndex.Proofs.Json.Fields

/-!
# What a reply can change

A reply is a text from outside.  Whatever it says, the descriptions that are kept of it change a
manifest only where descriptions were asked for: in the `description` property of a selected model
and of the columns that share their name with one that the generator was shown.
-/

namespace SemanticIndex

/-! ## Descriptions among properties -/

/-- A description is set in the place of the old one, behind all other properties or alone. -/
inductive SetsDescription (text : String) : Option Properties → Option Properties → Prop where
  | replaced
      {front back : Properties}
      {old : Json}
      (first : "description" ∉ front.keys) :
      SetsDescription text (some (front ++ ("description", old) :: back))
        (some (front ++ ("description", .string text) :: back))
  | appended
      {properties : Properties}
      (absent : "description" ∉ properties.keys) :
      SetsDescription text (some properties)
        (some (properties ++ [("description", .string text)]))
  | created : SetsDescription text none (some [("description", .string text)])

theorem setsDescription_describeProperties (properties : Option Properties) (text : String) :
    SetsDescription text properties (describeProperties properties text) := by
  unfold describeProperties
  cases properties with
  | none => exact .created
  | some fields =>
    rw [Option.getD_some]
    by_cases present : "description" ∈ fields.keys
    · obtain ⟨front, old, back, rfl, first⟩ := Fields.exists_append_of_mem_keys present
      rw [Fields.put_append_of_not_mem first]
      exact .replaced first
    · rw [Fields.put_of_not_mem present]
      exact .appended present

/-! ## Contained changes -/

/-- A column keeps all but its description, and this too unless a model has data of its name. -/
inductive Column.ChangesWithin (shown : Model) (column : Column) : Column → Prop where
  | unchanged : ChangesWithin shown column column
  | described
      {text : String}
      {properties : Option Properties}
      (named : ∃ own ∈ shown.columns, own.relationship = none ∧ own.name = column.name)
      (sets : SetsDescription text column.properties properties) :
      ChangesWithin shown column { column with properties := properties }

/-- A model keeps all but descriptions, and these too unless it is selected. -/
inductive Model.ChangesWithin
    (models : List Model)
    (selected : List String)
    (model : Model) : Model → Prop where
  | unchanged : ChangesWithin models selected model model
  | described
      {text : String}
      {properties : Option Properties}
      {columns : List Column}
      {shown : Model}
      (chosen : model.name ∈ selected)
      (first : models.find? (·.name = model.name) = some shown)
      (sets : SetsDescription text model.properties properties)
      (within : List.Forall₂ (Column.ChangesWithin shown) model.columns columns) :
      ChangesWithin models selected model
        { model with properties := properties, columns := columns }

/-- A manifest keeps its models in their order, with contained changes, and all else. -/
structure Manifest.ChangesWithin
    (manifest : Manifest)
    (selected : List String)
    (changed : Manifest) : Prop where
  models : List.Forall₂ (Model.ChangesWithin manifest.models selected)
    manifest.models changed.models
  rest : changed = { manifest with models := changed.models }

/-! ## Descriptions that were asked for -/

/-- Descriptions of selected models and of columns that the generator was shown. -/
def Manifest.Asks
    (manifest : Manifest)
    (selected : List String)
    (descriptions : Descriptions) : Prop :=
  ∀ name described, descriptions.find? name = some described →
    name ∈ selected ∧ ∃ shown, manifest.models.find? (·.name = name) = some shown ∧
      ∀ column ∈ described.columns,
        ∃ own ∈ shown.columns, own.relationship = none ∧ own.name = column.name

namespace Manifest

variable {manifest : Manifest} {selected : List String} {descriptions : Descriptions}

theorem asks_restrict
    (manifest : Manifest)
    (selected : List String)
    (descriptions : Descriptions) :
    manifest.Asks selected (descriptions.restrict (manifest.pick selected)) := by
  intro name described found
  rw [Descriptions.find?_restrict, Option.bind_eq_some_iff] at found
  obtain ⟨given, _, restricted⟩ := found
  rw [find?_pick] at restricted
  split at restricted
  · rename_i chosen
    rw [Option.map_map, Option.map_eq_some_iff] at restricted
    obtain ⟨shown, first, rfl⟩ := restricted
    refine ⟨chosen, shown, first, ?_⟩
    intro column kept
    obtain ⟨pickedColumn, shows, same⟩ := List.any_eq_true.mp (List.mem_filter.mp kept).2
    obtain ⟨own, physical, rfl⟩ := List.mem_map.mp shows
    obtain ⟨inside, plain⟩ := List.mem_filter.mp physical
    have noRelationship : own.relationship = none := by simpa [Column.isRelationship] using plain
    exact ⟨own, inside, noRelationship, of_decide_eq_true same⟩
  · exact nomatch restricted

theorem changesWithin_describe (asked : manifest.Asks selected descriptions) :
    manifest.ChangesWithin selected (manifest.describe descriptions) := by
  refine ⟨?_, rfl⟩
  show List.Forall₂ _ manifest.models (manifest.models.map _)
  rw [List.forall₂_map_right_iff, List.forall₂_same]
  intro model _
  cases found : descriptions.find? model.name with
  | none => exact .unchanged
  | some described =>
    obtain ⟨chosen, shown, first, columns⟩ := asked model.name described found
    apply Model.ChangesWithin.described chosen first (setsDescription_describeProperties _ _)
    rw [List.forall₂_map_right_iff, List.forall₂_same]
    intro column _
    unfold Column.describe
    split
    · rename_i chosenColumn foundColumn
      have named : chosenColumn.name = column.name := by simpa using List.find?_some foundColumn
      have shows := columns chosenColumn (List.mem_of_find?_eq_some foundColumn)
      exact .described (named ▸ shows) (setsDescription_describeProperties _ _)
    · exact .unchanged

theorem describe_of_empty (manifest : Manifest) : manifest.describe .empty = manifest := by
  have unnamed (name : String) : Descriptions.empty.find? name = none := rfl
  simp only [describe, unnamed, List.map_id']

end Manifest

/-! ## The main theorem -/

/-- The models of a reply, if it can be decoded. -/
def Reply.decode? (reply : String) : Option (List ModelDescription) :=
  (Json.Form.ofText? none (Text.collapse reply.toList)).bind models?

theorem Reply.read_of_decode?_eq_none
    {reply : String}
    (undecodable : decode? reply = none) :
    read reply = .empty := by
  unfold decode? at undecodable
  rw [read, undecodable]
  rfl

/--
Whatever a generator replies, its reply gives descriptions, and describing the manifest with them
changes it only where descriptions were asked for.  A reply that cannot be decoded changes nothing.
-/
theorem Generator.describe_contained
    {state : Type}
    {generator : Generator state}
    {manifest : Manifest}
    {request : DescriptionRequest}
    {initial final : state}
    {reply : String}
    (replied : (generator instructions (promptText (manifest.pick request.selected)
      request.prompt request.language)).perform initial = (.ok reply, final)) :
    ∃ descriptions,
      (generator.describe manifest request).perform initial = (.ok descriptions, final) ∧
        manifest.ChangesWithin request.selected (manifest.describe descriptions) ∧
        (Reply.decode? reply = none → manifest.describe descriptions = manifest) := by
  refine ⟨_, Action.perform_bind_of_ok replied _, ?_, ?_⟩
  · exact Manifest.changesWithin_describe (Manifest.asks_restrict _ _ _)
  · intro undecodable
    rw [Reply.read_of_decode?_eq_none undecodable]
    exact manifest.describe_of_empty

/-- Two models of one name, of which the first has a relationship column, and another model. -/
def ordersManifest : Manifest where
  models := [
    ⟨"orders", none, [⟨"id", "", some [("unit", .null)], none, none, none, []⟩,
      ⟨"customer", "", none, some "placed_by", none, none, []⟩], none, []⟩,
    ⟨"customers", none, [⟨"id", "", none, none, none, none, []⟩], none, []⟩,
    ⟨"orders", none, [⟨"id", "", none, none, none, none, []⟩,
      ⟨"customer", "", none, none, none, none, []⟩], none, []⟩]
  relationships := []
  metrics := []
  views := []
  extra := []

/-- A reply that also describes a relationship column, an invented one and an unselected model. -/
def excessiveReply : String :=
  "\x7b\"models\": [[\"orders\", [[\"id\", [\"Number\"]], [\"customer\", [\"Buyer\"]], " ++
    "[\"discount\", [\"None\"]]], [\"Sales\"]], [\"customers\", [], [\"People\"]]]\x7d"

/-- A request to describe the models named `orders`. -/
def ordersRequest : DescriptionRequest :=
  ⟨["orders"], "", defaultLanguage⟩

theorem Generator.describe_contained_orders :
    ((Reply.decode? excessiveReply).isSome ∧
      ∃ descriptions,
        ((recordedReply excessiveReply).describe ordersManifest ordersRequest).perform () =
            (.ok descriptions, ()) ∧
          ordersManifest.ChangesWithin ["orders"] (ordersManifest.describe descriptions)) ∧
    (Reply.decode? "I cannot help." = none ∧
      ∃ descriptions,
        ((recordedReply "I cannot help.").describe ordersManifest ordersRequest).perform () =
            (.ok descriptions, ()) ∧
          ordersManifest.describe descriptions = ordersManifest) := by
  have undecodable : Reply.decode? "I cannot help." = none := by decide +kernel
  have replied (reply : String) :
      (recordedReply reply instructions (promptText (ordersManifest.pick ordersRequest.selected)
        ordersRequest.prompt ordersRequest.language)).perform () = (.ok reply, ()) :=
    rfl
  constructor
  · obtain ⟨descriptions, performed, contained, _⟩ := describe_contained (replied excessiveReply)
    exact ⟨by decide +kernel, descriptions, performed, contained⟩
  · obtain ⟨descriptions, performed, _, unchanged⟩ :=
      describe_contained (replied "I cannot help.")
    exact ⟨undecodable, descriptions, performed, unchanged undecodable⟩

end SemanticIndex
