import SemanticIndex.Proofs.Description.Containment

/-!
# Applying descriptions

Descriptions come down to a wording: the text for each model name, and for each column name of a
model the text that is given first.  Applying them sets these texts and nothing else.  Applying some
descriptions after others is applying the later wording over the earlier one, from which follows
what happens when they are repeated, when they are about different models and when they disagree.
-/

namespace SemanticIndex

/-! ## Wordings -/

/-- What is said of models, by name, and of their columns. -/
structure Wording where
  model : String → Option String
  column : String → String → Option String

/-- The text of a model and the first text of each of its columns. -/
def Descriptions.wording (descriptions : Descriptions) : Wording where
  model name := (descriptions.find? name).map ModelDescription.description
  column name column := (descriptions.find? name).bind fun described =>
    (described.columns.find? (·.name = column)).map ColumnDescription.description

/-- Two wordings, of which the later one counts where both say something. -/
def Wording.over (later earlier : Wording) : Wording where
  model name := (later.model name).or (earlier.model name)
  column name column := (later.column name column).or (earlier.column name column)

theorem Wording.over_self (wording : Wording) : wording.over wording = wording := by
  simp [Wording.over]

/-- Wordings of different models do not get in the way of each other. -/
theorem Descriptions.wording_over_comm
    {one other : Descriptions}
    (disjoint : one.names.Disjoint other.names) :
    one.wording.over other.wording = other.wording.over one.wording := by
  have apart (name : String) : one.find? name = none ∨ other.find? name = none := by
    by_contra both
    simp only [not_or, Option.ne_none_iff_exists'] at both
    exact disjoint (mem_names_iff.mpr both.1) (mem_names_iff.mpr both.2)
  simp only [Wording.over, wording, Wording.mk.injEq]
  constructor
  · funext name
    rcases apart name with absent | absent <;> simp [absent]
  · funext name column
    rcases apart name with absent | absent <;> simp [absent]

/-! ## Setting texts -/

theorem Fields.put_put
    {value : Type}
    (fields : Fields value)
    (key : String)
    (old new : value) :
    (fields.put key old).put key new = fields.put key new := by
  induction fields with
  | nil => simp [put]
  | cons first rest induction =>
    by_cases same : first.1 = key
    · simp [put, same]
    · simp [put, same, induction]

/-- Set the description among properties, if there is a text for it. -/
def rewordProperties (properties : Option Properties) : Option String → Option Properties
  | some text => describeProperties properties text
  | none => properties

theorem rewordProperties_rewordProperties
    (properties : Option Properties)
    (earlier later : Option String) :
    rewordProperties (rewordProperties properties earlier) later =
      rewordProperties properties (later.or earlier) := by
  cases later with
  | none => rfl
  | some text =>
    cases earlier with
    | none => rfl
    | some old =>
      simp only [Option.some_or, rewordProperties, describeProperties, Option.getD_some,
        Fields.put_put]

/-- Set the text of a column, if there is one. -/
def Column.reword (column : Column) (text : Option String) : Column :=
  { column with properties := rewordProperties column.properties text }

/-- Set the texts of a model and its columns. -/
def Model.reword (wording : Wording) (model : Model) : Model :=
  { model with
    properties := rewordProperties model.properties (wording.model model.name)
    columns := model.columns.map fun column =>
      column.reword (wording.column model.name column.name) }

namespace Manifest

/-- Set the texts of all models and columns. -/
def reword (manifest : Manifest) (wording : Wording) : Manifest :=
  { manifest with models := manifest.models.map (Model.reword wording) }

theorem describe_eq_reword (manifest : Manifest) (descriptions : Descriptions) :
    manifest.describe descriptions = manifest.reword descriptions.wording := by
  have columns (described : ModelDescription) (column : Column) :
      column.describe described.columns = column.reword
        ((described.columns.find? (·.name = column.name)).map ColumnDescription.description) := by
    unfold Column.describe
    split <;> rename_i found <;> rw [found] <;> rfl
  rw [describe, reword]
  congr 2
  funext model
  split
  · rename_i described found
    simp only [Model.describe, Model.reword, Descriptions.wording, found, columns]
    rfl
  · rename_i unnamed
    simp only [Model.reword, Descriptions.wording, unnamed, Column.reword]
    simp [rewordProperties]

theorem reword_reword (manifest : Manifest) (earlier later : Wording) :
    (manifest.reword earlier).reword later = manifest.reword (later.over earlier) := by
  have column (column : Column) (old new : Option String) :
      (column.reword old).reword new = column.reword (new.or old) := by
    simp only [Column.reword, rewordProperties_rewordProperties]
  have model (model : Model) :
      (model.reword earlier).reword later = model.reword (later.over earlier) := by
    simp only [Model.reword, rewordProperties_rewordProperties, List.map_map,
      Function.comp_def, column]
    rfl
  simp only [reword, List.map_map, Function.comp_def, model]

end Manifest

/-! ## What changes -/

/-- A text is set as the description if there is one, and else nothing changes. -/
inductive SetsText : Option String → Option Properties → Option Properties → Prop where
  | silent {properties} : SetsText none properties properties
  | said {text properties changed} :
    SetsDescription text properties changed → SetsText (some text) properties changed

theorem setsText_rewordProperties (properties : Option Properties) (text : Option String) :
    SetsText text properties (rewordProperties properties text) := by
  cases text with
  | none => exact .silent
  | some text => exact .said (setsDescription_describeProperties properties text)

/-- A column with its text set, and nothing else changed. -/
structure Column.Reworded (text : Option String) (column changed : Column) : Prop where
  properties : SetsText text column.properties changed.properties
  rest : changed = { column with properties := changed.properties }

/-- A model with its text and those of its columns set, and nothing else changed. -/
structure Model.Reworded (wording : Wording) (model changed : Model) : Prop where
  properties : SetsText (wording.model model.name) model.properties changed.properties
  columns : List.Forall₂
    (fun column => column.Reworded (wording.column model.name column.name))
    model.columns changed.columns
  rest : changed = { model with properties := changed.properties, columns := changed.columns }

/-- A manifest with the texts of its models and columns set, and nothing else changed. -/
structure Manifest.Reworded (wording : Wording) (manifest changed : Manifest) : Prop where
  models : List.Forall₂ (Model.Reworded wording) manifest.models changed.models
  rest : changed = { manifest with models := changed.models }

theorem Model.reworded_reword (wording : Wording) (model : Model) :
    model.Reworded wording (model.reword wording) where
  properties := setsText_rewordProperties _ _
  columns := by
    show List.Forall₂ _ model.columns (model.columns.map _)
    rw [List.forall₂_map_right_iff, List.forall₂_same]
    exact fun column _ => ⟨setsText_rewordProperties _ _, rfl⟩
  rest := rfl

namespace Manifest

theorem reworded_reword (manifest : Manifest) (wording : Wording) :
    manifest.Reworded wording (manifest.reword wording) where
  models := by
    show List.Forall₂ _ manifest.models (manifest.models.map _)
    rw [List.forall₂_map_right_iff, List.forall₂_same]
    exact fun model _ => model.reworded_reword wording
  rest := rfl

theorem describedCount_eq (manifest : Manifest) (descriptions : Descriptions) :
    manifest.describedCount descriptions =
      (manifest.models.map Model.name).countP (· ∈ descriptions.names) := by
  rw [List.countP_map, describedCount]
  congr 1
  funext model
  rw [Bool.eq_iff_iff, Descriptions.isSome_find?_iff]
  simp

theorem map_name_describe (manifest : Manifest) (descriptions : Descriptions) :
    (manifest.describe descriptions).models.map Model.name = manifest.models.map Model.name := by
  rw [describe_eq_reword, reword, List.map_map]
  rfl

/--
Applying descriptions sets the text of each described model, and for each of its columns the text
that is given first, in the place of an old description or behind the other properties; nothing else
changes.  As many models as have a described name are counted.  Applying the same descriptions again
changes and counts nothing else, those of different models may be applied in either order, and of
two texts for one model or column the one that is applied later stays.
-/
theorem describe_sets_texts (manifest : Manifest) (descriptions : Descriptions) :
    manifest.Reworded descriptions.wording (manifest.describe descriptions) ∧
      manifest.describedCount descriptions =
        (manifest.models.map Model.name).countP (· ∈ descriptions.names) ∧
      (manifest.describe descriptions).describe descriptions = manifest.describe descriptions ∧
      (manifest.describe descriptions).describedCount descriptions =
        manifest.describedCount descriptions ∧
      (∀ other, descriptions.names.Disjoint other.names →
        (manifest.describe descriptions).describe other =
          (manifest.describe other).describe descriptions) ∧
      ∀ later, manifest.Reworded (later.wording.over descriptions.wording)
        ((manifest.describe descriptions).describe later) := by
  refine ⟨?_, describedCount_eq _ _, ?_, ?_, fun other disjoint => ?_, fun later => ?_⟩
  · rw [describe_eq_reword]
    exact reworded_reword _ _
  · simp only [describe_eq_reword, reword_reword, Wording.over_self]
  · simp only [describedCount_eq, map_name_describe]
  · simp only [describe_eq_reword, reword_reword, Descriptions.wording_over_comm disjoint]
  · simp only [describe_eq_reword, reword_reword]
    exact reworded_reword _ _

/-- Two texts for one column of a model. -/
def saleTexts : Descriptions :=
  .ofList [("orders", ⟨"orders", "Sales", [⟨"id", "Number"⟩, ⟨"id", "Key"⟩]⟩)]

def peopleTexts : Descriptions :=
  .ofList [("customers", ⟨"customers", "People", []⟩)]

theorem describe_sets_texts_orders :
    ordersManifest.describedCount saleTexts = 2 ∧
      (ordersManifest.describe saleTexts).describe peopleTexts =
        (ordersManifest.describe peopleTexts).describe saleTexts := by
  have disjoint : saleTexts.names.Disjoint peopleTexts.names :=
    List.disjoint_left.mpr (by decide)
  obtain ⟨-, counted, -, -, anyOrder, -⟩ := describe_sets_texts ordersManifest saleTexts
  exact ⟨counted.trans (by decide), anyOrder peopleTexts disjoint⟩

end Manifest

end SemanticIndex
