import SemanticIndex.Proofs.Description.Containment

/-!
# Descriptions of a selection

Restricted to the selected models of a manifest, descriptions keep the names that are selected and
that models have.  What is said of such a model is kept; what is said of its columns is kept for the
columns of the first model of the name that hold data of their own.  So only the set of the selected
names matters, and one selection after another keeps what they have in common.
-/

namespace SemanticIndex

/-- What is kept of a description when a model is shown: the columns that hold data there. -/
def ModelDescription.keptFor (given : ModelDescription) (shown : Model) : ModelDescription :=
  { given with
    columns := given.columns.filter fun column =>
      column.name ∈ shown.physicalColumns.map Column.name }

theorem ModelDescription.keptFor_keptFor (given : ModelDescription) (shown : Model) :
    (given.keptFor shown).keptFor shown = given.keptFor shown := by
  simp [keptFor]

namespace Descriptions

variable {descriptions : Descriptions} {manifest : Manifest} {selected others : List String}

theorem find?_restrict_pick
    (descriptions : Descriptions)
    (manifest : Manifest)
    (selected : List String)
    (name : String) :
    (descriptions.restrict (manifest.pick selected)).find? name =
      if name ∈ selected then
        (descriptions.find? name).bind fun given =>
          (manifest.models.find? (·.name = name)).map given.keptFor
      else none := by
  have kept (given : ModelDescription) (shown : Model) :
      { given with
        columns := given.columns.filter fun column =>
          (PickedModel.ofModel shown).columns.any (·.name = column.name) } =
        given.keptFor shown := by
    rw [ModelDescription.keptFor]
    congr 2
    funext column
    rw [Bool.eq_iff_iff, List.any_eq_true, decide_eq_true_iff]
    simp [PickedModel.ofModel, PickedColumn.ofColumn]
  rw [find?_restrict, Manifest.find?_pick]
  split
  · congr 1
    funext given
    rw [Option.map_map]
    congr 1
    funext shown
    exact kept given shown
  · simp

theorem find?_restrict_pick_eq_some_iff
    {name : String}
    {kept : ModelDescription} :
    (descriptions.restrict (manifest.pick selected)).find? name = some kept ↔
      name ∈ selected ∧ ∃ given shown, descriptions.find? name = some given ∧
        manifest.models.find? (·.name = name) = some shown ∧ kept = given.keptFor shown := by
  rw [find?_restrict_pick]
  split
  · rename_i isSelected
    simp only [Option.bind_eq_some_iff, Option.map_eq_some_iff, isSelected, true_and]
    constructor
    · rintro ⟨given, found, shown, first, rfl⟩
      exact ⟨given, shown, found, first, rfl⟩
    · rintro ⟨given, shown, found, first, rfl⟩
      exact ⟨given, found, shown, first, rfl⟩
  · rename_i unselected
    simp [unselected]

/-- The names that are kept are those of selected models. -/
theorem mem_names_restrict_pick_iff {name : String} :
    name ∈ (descriptions.restrict (manifest.pick selected)).names ↔
      name ∈ descriptions.names ∧ name ∈ selected ∧ name ∈ manifest.models.map Model.name := by
  have defined : name ∈ manifest.models.map Model.name ↔
      ∃ shown, manifest.models.find? (·.name = name) = some shown := by
    rw [← Option.isSome_iff_exists, List.find?_isSome]
    simp
  simp only [mem_names_iff, find?_restrict_pick_eq_some_iff, defined]
  constructor
  · rintro ⟨_, isSelected, given, shown, found, first, _⟩
    exact ⟨⟨given, found⟩, isSelected, shown, first⟩
  · rintro ⟨⟨given, found⟩, isSelected, shown, first⟩
    exact ⟨_, isSelected, given, shown, found, first, rfl⟩

theorem restrict_pick_congr (same : ∀ name, name ∈ selected ↔ name ∈ others) :
    descriptions.restrict (manifest.pick selected) =
      descriptions.restrict (manifest.pick others) := by
  apply eq_of_find?_eq
  intro name
  simp only [find?_restrict_pick, same]

theorem restrict_pick_restrict_pick
    (descriptions : Descriptions)
    (manifest : Manifest)
    (selected others : List String) :
    (descriptions.restrict (manifest.pick selected)).restrict (manifest.pick others) =
      descriptions.restrict (manifest.pick (selected ∩ others)) := by
  apply eq_of_find?_eq
  intro name
  simp only [find?_restrict_pick, List.mem_inter_iff]
  by_cases inBoth : name ∈ selected ∧ name ∈ others
  · rw [if_pos inBoth.2, if_pos inBoth.1, if_pos inBoth]
    cases descriptions.find? name with
    | none => rfl
    | some given =>
      cases manifest.models.find? (·.name = name) with
      | none => rfl
      | some shown => exact congrArg some (given.keptFor_keptFor shown)
  · rw [if_neg inBoth]
    split
    · rename_i second
      rw [if_neg fun first => inBoth ⟨first, second⟩, Option.bind_none]
    · rfl

/-- Descriptions are restricted to the selected models of a manifest. -/
structure RestrictedTo
    (manifest : Manifest)
    (selected : List String)
    (descriptions kept : Descriptions) : Prop where
  names : ∀ name, name ∈ kept.names ↔
    name ∈ descriptions.names ∧ name ∈ selected ∧ name ∈ manifest.models.map Model.name
  entries : ∀ name described, kept.find? name = some described →
    ∃ given shown, descriptions.find? name = some given ∧
      manifest.models.find? (·.name = name) = some shown ∧
      described.name = given.name ∧ described.description = given.description ∧
      described.columns = given.columns.filter fun column =>
        column.name ∈ shown.physicalColumns.map Column.name

theorem restrictedTo_restrict_pick
    (descriptions : Descriptions)
    (manifest : Manifest)
    (selected : List String) :
    RestrictedTo manifest selected descriptions
      (descriptions.restrict (manifest.pick selected)) where
  names _ := mem_names_restrict_pick_iff
  entries name described found := by
    obtain ⟨_, given, shown, present, first, rfl⟩ := find?_restrict_pick_eq_some_iff.mp found
    exact ⟨given, shown, present, first, rfl, rfl, rfl⟩

/--
Restricting descriptions to selected models keeps exactly the described names that are selected and
that models have, with all that is said of these models and of their columns with data.  Doing it
again changes nothing, doing it for two selections in either order does it for the names that they
have in common, and the selected names matter as a set.
-/
theorem restrict_to_selection
    (descriptions : Descriptions)
    (manifest : Manifest)
    (selected : List String) :
    RestrictedTo manifest selected descriptions
        (descriptions.restrict (manifest.pick selected)) ∧
      (descriptions.restrict (manifest.pick selected)).restrict (manifest.pick selected) =
        descriptions.restrict (manifest.pick selected) ∧
      (∀ others,
        (descriptions.restrict (manifest.pick selected)).restrict (manifest.pick others) =
            descriptions.restrict (manifest.pick (selected ∩ others)) ∧
          (descriptions.restrict (manifest.pick others)).restrict (manifest.pick selected) =
            descriptions.restrict (manifest.pick (selected ∩ others))) ∧
      ∀ others, (∀ name, name ∈ selected ↔ name ∈ others) →
        descriptions.restrict (manifest.pick selected) =
          descriptions.restrict (manifest.pick others) := by
  refine ⟨restrictedTo_restrict_pick _ _ _, ?_, fun others => ⟨?_, ?_⟩, fun others same => ?_⟩
  · rw [restrict_pick_restrict_pick]
    exact restrict_pick_congr (by simp)
  · exact restrict_pick_restrict_pick _ _ _ _
  · rw [restrict_pick_restrict_pick]
    exact restrict_pick_congr (by simp [and_comm])
  · exact restrict_pick_congr same

/-- Descriptions with a repeated column, a relationship column and names beside the selection. -/
def ordersDescriptions : Descriptions :=
  .ofList [
    ("orders", ⟨"sales", "Purchases", [⟨"id", "Number"⟩, ⟨"customer", "Buyer"⟩, ⟨"id", "Key"⟩]⟩),
    ("ghosts", ⟨"ghosts", "Nobody", []⟩),
    ("customers", ⟨"customers", "People", [⟨"id", "Number"⟩]⟩)]

theorem restrict_to_selection_orders :
    (ordersDescriptions.restrict (ordersManifest.pick ["ghosts", "orders"])).entries =
        [("orders", ⟨"sales", "Purchases", [⟨"id", "Number"⟩, ⟨"id", "Key"⟩]⟩)] ∧
      ordersDescriptions.restrict (ordersManifest.pick ["ghosts", "orders"]) =
        ordersDescriptions.restrict (ordersManifest.pick ["orders", "ghosts", "orders"]) := by
  have same : ∀ name, name ∈ ["ghosts", "orders"] ↔ name ∈ ["orders", "ghosts", "orders"] := by
    simp [or_comm]
  obtain ⟨-, -, -, bySet⟩ :=
    restrict_to_selection ordersDescriptions ordersManifest ["ghosts", "orders"]
  exact ⟨by decide +kernel, bySet _ same⟩

end Descriptions

end SemanticIndex
