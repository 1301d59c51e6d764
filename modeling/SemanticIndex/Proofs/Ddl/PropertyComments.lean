import SemanticIndex.Proofs.Ddl.Confinement
import SemanticIndex.Proofs.Json.RoundTrip

/-!
# Properties read back from comments

Properties are written into a comment of one line, whatever strings and keys they have.  Cutting a
definition at its line breaks therefore gives the comment whole, and its text reads as exactly
these properties, in their order.  No mark inside of the properties can disturb this: neither the
end of a comment nor the text of another definition starts a line.
-/

namespace SemanticIndex

/--
A text of one line reads as the properties wherever their nesting is allowed.  Properties fit some
limit when their keys are distinct, their integers representable and their doubles read back.
-/
structure IsTextOf (text : String) (properties : Properties) : Prop where
  single : '\n' ∉ text.toList
  reads : ∀ limit, (Json.object properties).Fits limit →
    Json.readWithin? limit text = some (.object properties)

theorem isTextOf_propertiesText (properties : Properties) :
    IsTextOf (propertiesText properties) properties where
  single := by
    rw [toList_propertiesText]
    exact Json.break_not_mem_write _
  reads _ fits := Json.readWithin?_compact fits

/-- The second line of a model's block is a comment with its properties; empty ones have none. -/
def Model.ShowsProperties (model : Model) (text : String) : Prop :=
  ∀ properties, model.properties = some properties → properties ≠ [] →
    ∃ json rest, IsTextOf json properties ∧ rest ≠ [] ∧
      Text.lines text.toList = [] :: ("/* " ++ json ++ " */").toList :: rest

/-- The first line of a column's entry is a comment with its properties. -/
def Column.ShowsProperties (column : Column) (entry : String) : Prop :=
  ∀ properties, column.properties = some properties →
    ∃ json rest, IsTextOf json properties ∧ rest ≠ [] ∧
      Text.lines entry.toList = ("-- " ++ json).toList :: rest

/-- The first line of a view's definition is a comment with its properties. -/
def View.ShowsProperties (view : View) (text : String) : Prop :=
  ∀ properties, view.properties = some properties →
    ∃ json rest, IsTextOf json properties ∧ rest ≠ [] ∧
      Text.lines text.toList = ("/* " ++ json ++ " */").toList :: rest

theorem IsTextOf.break_not_mem_comment
    {text : String}
    {properties : Properties}
    (shown : IsTextOf text properties) :
    '\n' ∉ ("/* " ++ text ++ " */").toList := by
  simp [shown.single]

theorem Model.showsProperties_table
    (model : Model)
    (keys : List ForeignKey) :
    model.ShowsProperties (model.table keys) := by
  intro properties present nonempty
  have shown := isTextOf_propertiesText properties
  have header : model.header = "\n/* " ++ propertiesText properties ++ " */\n" := by
    obtain ⟨first, rest, rfl⟩ := List.exists_cons_of_ne_nil nonempty
    rw [Model.header, present]
  obtain ⟨table, split⟩ : ∃ table, (model.table keys).toList =
      [] ++ '\n' :: (("/* " ++ propertiesText properties ++ " */").toList ++ '\n' :: table) := by
    rw [Model.table, createTable, header]
    exact ⟨_, by simp; rfl⟩
  refine ⟨_, Text.lines table, shown, List.splitOn_ne_nil '\n' table, ?_⟩
  rw [split, Text.lines_line_break List.not_mem_nil,
    Text.lines_line_break shown.break_not_mem_comment]

theorem Column.showsProperties_entry
    (column : Column)
    (primaryKey : Option String) :
    column.ShowsProperties (column.entry primaryKey) := by
  intro properties present
  have shown := isTextOf_propertiesText properties
  have single : '\n' ∉ ("-- " ++ propertiesText properties).toList := by
    simp [shown.single]
  obtain ⟨definition, split⟩ : ∃ definition, (column.entry primaryKey).toList =
      ("-- " ++ propertiesText properties).toList ++ '\n' :: definition := by
    rw [Column.entry, Column.comments, present]
    exact ⟨_, by simp; rfl⟩
  refine ⟨_, Text.lines definition, shown, List.splitOn_ne_nil '\n' definition, ?_⟩
  rw [split, Text.lines_line_break single]

theorem View.showsProperties_definition (view : View) :
    view.ShowsProperties view.definition := by
  intro properties present
  have shown := isTextOf_propertiesText properties
  obtain ⟨statement, split⟩ : ∃ statement, view.definition.toList =
      ("/* " ++ propertiesText properties ++ " */").toList ++ '\n' :: statement := by
    rw [View.definition, present]
    exact ⟨_, by simp; rfl⟩
  refine ⟨_, Text.lines statement, shown, List.splitOn_ne_nil '\n' statement, ?_⟩
  rw [split, Text.lines_line_break shown.break_not_mem_comment]

namespace Manifest

/-- Models, physical columns and views show their properties where their definitions stand. -/
structure ShowsProperties (manifest : Manifest) (documents : List Document) : Prop where
  models : ∀ (position : Nat) (model : Model), manifest.models[position]? = some model →
    ∃ document keys entries, documents[position]? = some document ∧
      manifest.foreignKeys model.name = .ok keys ∧
      IsTable document.content model.header model.name (entries ++ keys.map ForeignKey.clause) ∧
      model.ShowsProperties document.content ∧
      List.Forall₂ (fun column entry => column.IsEntry model entry ∧ column.ShowsProperties entry)
        (model.columns.filter (·.relationship.isNone)) entries
  views : ∀ (position : Nat) (view : View), manifest.views[position]? = some view →
    ∃ document,
      documents[manifest.models.length + manifest.metrics.length + position]? = some document ∧
        view.IsBlock document.content ∧ view.ShowsProperties document.content

/-- What a manifest compiles to gives the properties back that it has in comments. -/
theorem showsProperties_of_compile
    {manifest : Manifest}
    {documents : List Document}
    (compiled : manifest.compile = .ok documents) :
    manifest.ShowsProperties documents := by
  have emits := emits_of_compile compiled
  constructor
  · intro position model declared
    obtain ⟨document, keys, found, resolved, block⟩ := emits.models position model declared
    obtain ⟨entries, references, isTable, columnEntries, keyEntries⟩ := block.entries
    have clauses : references = keys.map ForeignKey.clause := forall₂_image_iff.mp keyEntries
    refine ⟨document, keys, entries, found, resolved, clauses ▸ isTable, ?_, ?_⟩
    · rw [Model.isBlock_iff.mp block]
      exact model.showsProperties_table keys
    · refine columnEntries.imp fun column entry isEntry => ⟨isEntry, ?_⟩
      rw [Column.isEntry_iff.mp isEntry]
      exact column.showsProperties_entry model.key?
  · intro position view declared
    obtain ⟨document, found, block⟩ := emits.views position view declared
    refine ⟨document, found, block, ?_⟩
    have content : document.content = view.definition := block
    rw [content]
    exact view.showsProperties_definition

/-- Properties with line breaks, control characters, comment marks and the text of a definition. -/
def hostileProperties : Properties :=
  [("description", .string "One */\nCREATE TABLE orders ("),
    ("-- tags", .array [.object [("\x07", .null)], .string ",\n  "])]

/-- Orders with such properties, and with empty ones. -/
def hostileOrders : Manifest where
  models := [
    ⟨"orders", some hostileProperties, [
      ⟨"id", "int", some hostileProperties, none, none, none, []⟩,
      ⟨"customer", "customers", some [], some "orders_customers", none, none, []⟩],
      some "id", []⟩]
  relationships := []
  metrics := []
  views := [⟨"best", "SELECT 1", some [], []⟩]
  extra := []

theorem showsProperties_of_compile_hostileOrders :
    (Json.object hostileProperties).Fits Json.nestingLimit ∧
      ∃ documents, hostileOrders.compile = .ok documents ∧
        hostileOrders.ShowsProperties documents := by
  have tag : (Json.object [("\x07", .null)]).Fits 125 :=
    .object (by decide) (List.forall_mem_singleton.mpr .null)
  have tags : (Json.array [.object [("\x07", .null)], .string ",\n  "]).Fits 126 :=
    .array (List.forall_mem_cons.mpr ⟨tag, List.forall_mem_singleton.mpr .string⟩)
  have fits : (Json.object hostileProperties).Fits 127 :=
    .object (by decide) (List.forall_mem_cons.mpr ⟨.string, List.forall_mem_singleton.mpr tags⟩)
  exact ⟨fits, _, rfl, showsProperties_of_compile rfl⟩

end Manifest

end SemanticIndex
