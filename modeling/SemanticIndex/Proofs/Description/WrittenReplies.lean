import SemanticIndex.Description.Reply
import SemanticIndex.Proofs.Json.Writings

/-!
# Replies as they are written

Model descriptions are written as a reply in many ways: keys come in any order and among unknown
ones, defaults may be left out, and blanks stand anywhere between tokens and inside of strings.
One way to write any descriptions is given too; it has no blanks that stand for themselves.
-/

namespace SemanticIndex.Reply

open Json Text

/-! ## Ways of writing -/

/-- The literals by which a column is described. -/
structure WrittenColumn where
  name : StringLiteral
  description : StringLiteral

/-- The literals by which a model is described. -/
structure WrittenModel where
  name : StringLiteral
  description : StringLiteral
  columns : List WrittenColumn

/-- The description that a column's literals have been written for. -/
def WrittenColumn.text (column : WrittenColumn) : ColumnDescription :=
  ⟨column.name.text, column.description.text⟩

/-- The description that a model's literals have been written for. -/
def WrittenModel.text (model : WrittenModel) : ModelDescription :=
  ⟨model.name.text, model.description.text, model.columns.map WrittenColumn.text⟩

def WrittenColumn.collapsed (column : WrittenColumn) : WrittenColumn :=
  ⟨column.name.collapsed, column.description.collapsed⟩

def WrittenModel.collapsed (model : WrittenModel) : WrittenModel :=
  ⟨model.name.collapsed, model.description.collapsed, model.columns.map WrittenColumn.collapsed⟩

/-- The fields under known keys, with the texts of their values. -/
def knownMembers (known : List String) (fields : List Field) : Fields (List Char) :=
  (fields.filter (·.name ∈ known)).map fun field => (field.name, field.value)

/-- An object with members under known keys, none of them twice, and any values under others. -/
inductive IsRecord (known : List String) : Fields (List Char) → List Char → Prop where
  | intro {fields : List Field} {body : List Char} :
    Items '}' (fields.map Field.text) body →
      (∀ field ∈ fields, ∀ glyph ∈ field.key, glyph.character? ≠ none) →
      (∀ field ∈ fields, field.name ∉ known → IsValue field.value) →
      (knownMembers known fields).keys.Nodup →
      IsRecord known (knownMembers known fields) ('{' :: body)

/-- A member that may be omitted where it is the default. -/
inductive Given (isDefault : Prop) (spells : List Char → Prop) : Option (List Char) → Prop where
  | omitted : isDefault → Given isDefault spells none
  | written {characters} : spells characters → Given isDefault spells (some characters)

inductive SpellsList
    {item : Type}
    (spells : item → List Char → Prop)
    (items : List item) : List Char → Prop where
  | intro {texts body} :
    Items ']' texts body → List.Forall₂ spells items texts →
      SpellsList spells items ('[' :: body)

inductive SpellsProperties (description : StringLiteral) : List Char → Prop where
  | intro {members characters} :
    IsRecord ["description"] members characters →
      Given (description.text = "") (· = quoted description.glyphs) (members.get? "description") →
      SpellsProperties description characters

inductive SpellsColumn (column : WrittenColumn) : List Char → Prop where
  | intro {members characters} :
    IsRecord ["name", "properties"] members characters →
      members.get? "name" = some (quoted column.name.glyphs) →
      Given (column.description.text = "") (SpellsProperties column.description)
        (members.get? "properties") →
      SpellsColumn column characters

inductive SpellsModel (model : WrittenModel) : List Char → Prop where
  | intro {members characters} :
    IsRecord ["name", "columns", "properties"] members characters →
      members.get? "name" = some (quoted model.name.glyphs) →
      Given (model.columns = []) (SpellsList SpellsColumn model.columns)
        (members.get? "columns") →
      Given (model.description.text = "") (SpellsProperties model.description)
        (members.get? "properties") →
      SpellsModel model characters

/-- A reply that describes models by the literals, in the order of the models. -/
inductive Spells (models : List WrittenModel) : List Char → Prop where
  | intro {members front characters back} :
    AllBlank front → AllBlank back → IsRecord ["models"] members characters →
      Given (models = []) (SpellsList SpellsModel models) (members.get? "models") →
      Spells models (front ++ (characters ++ back))

/-! ## A reply for any descriptions -/

/-- Texts with bare commas between them. -/
def listed (close : Char) : List (List Char) → List Char
  | [] => [close]
  | [item] => item ++ [close]
  | item :: rest => item ++ ',' :: listed close rest

theorem items_listed (close : Char) (items : List (List Char)) :
    Items close items (listed close items) := by
  induction items with
  | nil => exact .none allBlank_nil
  | cons item rest induction =>
    cases rest with
    | nil => exact .last allBlank_nil allBlank_nil
    | cons second rest => exact .more allBlank_nil allBlank_nil (List.cons_ne_nil second rest) induction

theorem spellsList_listed
    {item : Type}
    {spells : item → List Char → Prop}
    {items : List item}
    {text : item → List Char}
    (spelled : ∀ item ∈ items, spells item (text item)) :
    SpellsList spells items ('[' :: listed ']' (items.map text)) := by
  apply SpellsList.intro (items_listed ']' _)
  rw [List.forall₂_map_right_iff, List.forall₂_same]
  exact spelled

def objectText (fields : List Field) : List Char :=
  '{' :: listed '}' (fields.map Field.text)

theorem isRecord_objectText
    {known : List String}
    {fields : List Field}
    (whole : ∀ field ∈ fields, ∀ glyph ∈ field.key, glyph.character? ≠ none)
    (values : ∀ field ∈ fields, field.name ∉ known → IsValue field.value)
    (once : (knownMembers known fields).keys.Nodup) :
    IsRecord known (knownMembers known fields) (objectText fields) :=
  .intro (items_listed '}' _) whole values once

/-- A field without blanks around its colon. -/
def bareField (key : String) (value : List Char) : Field :=
  ⟨(StringLiteral.ofText key).glyphs, [], [], value, allBlank_nil, allBlank_nil⟩

theorem name_bareField (key : String) (value : List Char) : (bareField key value).name = key :=
  StringLiteral.text_ofText key

/-- A record of the members and nothing else. -/
def recordText (members : Fields (List Char)) : List Char :=
  objectText (members.map fun member => bareField member.1 member.2)

theorem isRecord_recordText
    {known : List String}
    {members : Fields (List Char)}
    (inside : ∀ key ∈ members.keys, key ∈ known)
    (distinct : members.keys.Nodup) :
    IsRecord known members (recordText members) := by
  let fields := members.map fun member => bareField member.1 member.2
  have named : ∀ field ∈ fields, field.name ∈ known := by
    intro field written
    obtain ⟨member, present, rfl⟩ := List.mem_map.mp written
    rw [name_bareField]
    exact inside member.1 (List.mem_map_of_mem present)
  have kept : knownMembers known fields = members := by
    rw [knownMembers, List.filter_eq_self.mpr (by simpa using named), List.map_map]
    simp only [Function.comp_def, name_bareField]
    exact List.map_id' members
  rw [recordText]
  nth_rewrite 1 [← kept]
  apply isRecord_objectText
  · intro field written
    obtain ⟨member, _, rfl⟩ := List.mem_map.mp written
    exact (StringLiteral.ofText member.1).whole
  · exact fun field written unknown => absurd (named field written) unknown
  · rwa [kept]

def WrittenColumn.ofDescription (column : ColumnDescription) : WrittenColumn :=
  ⟨.ofText column.name, .ofText column.description⟩

def WrittenModel.ofDescription (model : ModelDescription) : WrittenModel :=
  ⟨.ofText model.name, .ofText model.description, model.columns.map .ofDescription⟩

def propertiesText (description : StringLiteral) : List Char :=
  recordText [("description", quoted description.glyphs)]

def columnText (column : WrittenColumn) : List Char :=
  recordText [("name", quoted column.name.glyphs),
    ("properties", propertiesText column.description)]

def modelText (model : WrittenModel) : List Char :=
  recordText [("name", quoted model.name.glyphs),
    ("columns", '[' :: listed ']' (model.columns.map columnText)),
    ("properties", propertiesText model.description)]

/-- A reply without any blanks that stand for themselves. -/
def replyText (descriptions : List ModelDescription) : String :=
  .ofList (recordText [("models",
    '[' :: listed ']' ((descriptions.map .ofDescription).map modelText))])

theorem spellsProperties_propertiesText (description : StringLiteral) :
    SpellsProperties description (propertiesText description) :=
  .intro (isRecord_recordText (by simp [Fields.keys]) (by simp [Fields.keys])) (.written rfl)

theorem spellsColumn_columnText (column : WrittenColumn) :
    SpellsColumn column (columnText column) :=
  .intro (isRecord_recordText (by simp [Fields.keys]) (by simp [Fields.keys])) rfl
    (.written (spellsProperties_propertiesText column.description))

theorem spellsModel_modelText (model : WrittenModel) : SpellsModel model (modelText model) :=
  .intro (isRecord_recordText (by simp [Fields.keys]) (by simp [Fields.keys])) rfl
    (.written (spellsList_listed fun column _ => spellsColumn_columnText column))
    (.written (spellsProperties_propertiesText model.description))

theorem spells_replyText (descriptions : List ModelDescription) :
    Spells (descriptions.map .ofDescription) (replyText descriptions).toList := by
  have spelled := spellsList_listed
    fun model (_ : model ∈ descriptions.map .ofDescription) => spellsModel_modelText model
  rw [replyText, String.toList_ofList, ← List.nil_append (recordText _),
    ← List.append_nil (recordText _)]
  exact .intro allBlank_nil allBlank_nil
    (isRecord_recordText (by simp [Fields.keys]) (by simp [Fields.keys])) (.written spelled)

end SemanticIndex.Reply
