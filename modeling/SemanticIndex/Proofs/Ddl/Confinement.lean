import SemanticIndex.Proofs.Ddl.Layout

/-!
# Where free text shows

Properties and expressions are free text, and a block shows them in comments.  Properties are
written as JSON and stay on one line, but the mark that ends a block comment is not escaped in
them.  An expression is shown as it is, and only its first line stands behind the mark of a comment.

A block therefore keeps free text inside of comments exactly when it is tame: no string in leading
properties has the mark that ends a comment, and every further line of an expression happens to be
a comment, blank or a definition of the table.
-/

namespace SemanticIndex

/-! ## Lines that show definitions only -/

/-- Blanks in front of what a line shows. -/
def IsIndentation (characters : List Char) : Prop :=
  ∀ character ∈ characters, Text.isBlank character = true

instance (characters : List Char) : Decidable (IsIndentation characters) :=
  List.decidableBAll _ characters

/-- A line shows, behind its indentation, nothing, a comment or one of the definitions. -/
inductive ShowsOnly (definitions : List String) : List Char → Prop where
  | blank {indentation}
      (blank : IsIndentation indentation) :
      ShowsOnly definitions indentation
  | comment {indentation}
      (blank : IsIndentation indentation)
      (rest : List Char) :
      ShowsOnly definitions (indentation ++ '-' :: '-' :: rest)
  | definition {indentation definition}
      (blank : IsIndentation indentation)
      (inside : definition ∈ definitions) :
      ShowsOnly definitions (indentation ++ definition.toList)
  | separated {indentation definition}
      (blank : IsIndentation indentation)
      (inside : definition ∈ definitions) :
      ShowsOnly definitions (indentation ++ (definition.toList ++ [',']))

/-- A line splits in one of finitely many ways into its indentation and what it shows. -/
theorem showsOnly_iff
    {definitions : List String}
    {line : List Char} :
    ShowsOnly definitions line ↔
      ∃ width ≤ line.length, IsIndentation (line.take width) ∧
        (line.drop width = [] ∨ ['-', '-'] <+: line.drop width ∨
          ∃ definition ∈ definitions, line.drop width = definition.toList ∨
            line.drop width = definition.toList ++ [',']) := by
  constructor
  · intro shows
    cases shows with
    | blank blank =>
      exact ⟨line.length, le_rfl, by rwa [List.take_length], .inl List.drop_length⟩
    | @comment indentation blank rest =>
      exact ⟨indentation.length, by simp, by rwa [List.take_left], .inr (.inl (by simp))⟩
    | @definition indentation definition blank inside =>
      exact ⟨indentation.length, by simp, by rwa [List.take_left],
        .inr (.inr ⟨definition, inside, .inl List.drop_left⟩)⟩
    | @separated indentation definition blank inside =>
      exact ⟨indentation.length, by simp, by rwa [List.take_left],
        .inr (.inr ⟨definition, inside, .inr List.drop_left⟩)⟩
  · rintro ⟨width, _, blank, shown⟩
    rw [← List.take_append_drop width line]
    rcases shown with nothing | ⟨rest, comment⟩ | ⟨definition, inside, alone | separated⟩
    · rw [nothing, List.append_nil]
      exact .blank blank
    · rw [← comment]
      exact .comment blank rest
    · rw [alone]
      exact .definition blank inside
    · rw [separated]
      exact .separated blank inside

instance (definitions : List String) (line : List Char) :
    Decidable (ShowsOnly definitions line) :=
  decidable_of_iff _ showsOnly_iff.symm

/-- The lines of a text behind its first one. -/
def laterLines (text : String) : List (List Char) :=
  (Text.lines text.toList).tail

/-- A free text may stand behind the mark of a comment line. -/
def Tame (definitions : List String) (text : String) : Prop :=
  ∀ line ∈ laterLines text, ShowsOnly definitions line

section Lines

variable {definitions : List String}

instance (text : String) : Decidable (Tame definitions text) :=
  List.decidableBAll _ (laterLines text)

theorem tame_of_not_mem
    {text : String}
    (single : '\n' ∉ text.toList) :
    Tame definitions text := by
  simp [Tame, laterLines, Text.lines_of_not_mem single]

/-- What stands in front on the first line does not matter. -/
theorem tame_append_iff
    {front : String}
    (single : '\n' ∉ front.toList)
    (text : String) :
    Tame definitions (front ++ text) ↔ Tame definitions text := by
  obtain ⟨first, rest, split, joined⟩ := Text.lines_append_of_not_mem single text.toList
  simp [Tame, laterLines, split, joined]

theorem isIndentation_spaces : IsIndentation [' ', ' '] := by
  decide

/-- The first line of a note is a comment, and the others are as they stand in the note. -/
theorem showsOnly_note_iff
    {note : String}
    (comment : ['-', '-'] <+: note.toList) :
    (∀ line ∈ Text.lines (TableEntry.indented note.toList), ShowsOnly definitions line) ↔
      Tame definitions note := by
  obtain ⟨rest, starts⟩ := comment
  have mark : '\n' ∉ ['-', '-'] := by decide
  have indentedMark : '\n' ∉ TableEntry.indented ['-', '-'] := by decide
  obtain ⟨first, others, split, noteLines⟩ := Text.lines_append_of_not_mem mark rest
  obtain ⟨_, _, again, indentedLines⟩ := Text.lines_append_of_not_mem indentedMark rest
  obtain ⟨rfl, rfl⟩ := List.cons.inj (split.symm.trans again)
  have shown : ShowsOnly definitions (TableEntry.indented ['-', '-'] ++ first) :=
    .comment isIndentation_spaces first
  have lines : Text.lines (TableEntry.indented (['-', '-'] ++ rest)) =
      (TableEntry.indented ['-', '-'] ++ first) :: others := indentedLines
  rw [Tame, laterLines, ← starts, lines, noteLines, List.forall_mem_cons]
  simp [shown]

/-- The last line of an entry is its definition, and the others are those of its notes. -/
theorem showsOnly_linesWith_iff
    {entry : TableEntry}
    (defined : entry.definition ∈ definitions)
    (noted : ∀ note ∈ entry.notes, ['-', '-'] <+: note.toList)
    {ending : List Char}
    (known : ending = [] ∨ ending = [',']) :
    (∀ line ∈ entry.linesWith ending, ShowsOnly definitions line) ↔
      ∀ note ∈ entry.notes, Tame definitions note := by
  have shown : ShowsOnly definitions
      (TableEntry.indented (entry.definition.toList ++ ending)) := by
    rcases known with rfl | rfl
    · rw [List.append_nil]
      exact .definition isIndentation_spaces defined
    · exact .separated isIndentation_spaces defined
  rw [TableEntry.linesWith, List.forall_mem_append, List.forall_mem_singleton,
    List.forall_mem_flatMap]
  simp only [shown, and_true]
  exact forall₂_congr fun note inside => showsOnly_note_iff (noted note inside)

/-- The body of a table shows definitions only exactly if all notes in it are tame. -/
theorem showsOnly_body_iff
    {entries : List TableEntry}
    (defined : ∀ entry ∈ entries, entry.definition ∈ definitions)
    (noted : ∀ entry ∈ entries, ∀ note ∈ entry.notes, ['-', '-'] <+: note.toList) :
    (∀ line ∈ TableEntry.body entries, ShowsOnly definitions line) ↔
      ∀ entry ∈ entries, ∀ note ∈ entry.notes, Tame definitions note := by
  induction entries with
  | nil =>
    have blank : ShowsOnly definitions (TableEntry.indented []) := .blank isIndentation_spaces
    simp [TableEntry.body, blank]
  | cons entry rest induction =>
    obtain ⟨ownDefined, restDefined⟩ := List.forall_mem_cons.mp defined
    obtain ⟨ownNoted, restNoted⟩ := List.forall_mem_cons.mp noted
    have own {ending : List Char} (known : ending = [] ∨ ending = [',']) :=
      showsOnly_linesWith_iff ownDefined ownNoted known
    rw [List.forall_mem_cons]
    cases rest with
    | nil => simp [TableEntry.body, own (.inl rfl)]
    | cons next rest =>
      rw [TableEntry.body, List.forall_mem_append, own (.inr rfl), induction restDefined restNoted]
      simp

/-- A text is a table whose body shows definitions only. -/
def ConfinesTable (definitions : List String) (text header name : String) : Prop :=
  ∃ body, HasBody text header name body ∧ ∀ line ∈ body, ShowsOnly definitions line

theorem confinesTable_createTable_iff
    {header name : String}
    (headerLines : Text.EndsLine header.toList)
    (nameLine : '\n' ∉ name.toList)
    {entries : List TableEntry}
    (defined : ∀ entry ∈ entries, entry.definition ∈ definitions)
    (singleLines : ∀ definition ∈ definitions, '\n' ∉ definition.toList)
    (noted : ∀ entry ∈ entries, ∀ note ∈ entry.notes, ['-', '-'] <+: note.toList) :
    ConfinesTable definitions (createTable header name (entries.map TableEntry.text)) header
        name ↔
      ∀ entry ∈ entries, ∀ note ∈ entry.notes, Tame definitions note := by
  have has := hasBody_createTable headerLines nameLine fun entry inside =>
    singleLines entry.definition (defined entry inside)
  rw [← showsOnly_body_iff defined noted]
  constructor
  · rintro ⟨body, hasOther, shows⟩
    rwa [hasOther.unique has] at shows
  · exact fun shows => ⟨_, has, shows⟩

end Lines

/-! ## Comments that carry properties -/

/-- The inside of the comment that carries properties. -/
def propertiesComment (properties : Properties) : List Char :=
  ' ' :: (propertiesText properties).toList ++ [' ']

theorem toList_propertiesText (properties : Properties) :
    (propertiesText properties).toList = (Json.object properties).write := by
  rw [propertiesText, Json.compact, String.toList_ofList]

theorem endsComment_propertiesComment_iff (properties : Properties) :
    Text.EndsComment (propertiesComment properties) ↔
      (Json.object properties).MentionsCommentEnd := by
  rw [propertiesComment, toList_propertiesText, List.cons_append,
    Text.endsComment_cons_of_ne (by decide), Text.endsComment_append_iff (by decide),
    Json.endsComment_write_iff]
  simp [Text.not_endsComment_of_not_mem]

/-- A comment in front of a text ends at its own mark exactly if no string in it has that mark. -/
theorem leadingComment?_properties_iff
    {blanks : List Char}
    (blank : IsIndentation blanks)
    (properties : Properties)
    (rest : List Char) :
    Text.leadingComment? (blanks ++ '/' :: '*' :: (propertiesComment properties ++
        '*' :: '/' :: rest)) = some (propertiesComment properties) ↔
      ¬(Json.object properties).MentionsCommentEnd := by
  rw [← endsComment_propertiesComment_iff, ← @Text.commentInside?_append_iff _ rest,
    Text.leadingComment?, List.dropWhile_append_of_pos blank]
  rfl

/-! ## Models -/

namespace Column

theorem comment_of_mem_notes
    {column : Column}
    {note : String}
    (inside : note ∈ column.notes) :
    ['-', '-'] <+: note.toList := by
  rcases List.mem_append.mp inside with properties | calculation
  · rw [Option.mem_toList, Option.map_eq_some_iff] at properties
    obtain ⟨_, _, rfl⟩ := properties
    simp
  · split at calculation
    · simp only [List.mem_cons, List.not_mem_nil, or_false] at calculation
      rcases calculation with rfl | rfl <;> simp
    · cases calculation

/-- Of the notes on a column only its expression can have more than one line. -/
theorem tame_notes_iff
    {definitions : List String}
    (column : Column) :
    (∀ note ∈ column.notes, Tame definitions note) ↔
      (column.calculated = true → Tame definitions (column.expression.getD "")) := by
  have mark : '\n' ∉ "-- column expression: ".toList := by decide
  have announced : Tame definitions "-- This column is a Calculated Field" :=
    tame_of_not_mem (by decide)
  have properties (shown : Properties) : Tame definitions ("-- " ++ propertiesText shown) := by
    apply tame_of_not_mem
    rw [String.toList_append, toList_propertiesText, List.mem_append, not_or]
    exact ⟨by decide, Json.break_not_mem_write _⟩
  unfold notes
  cases column.properties <;> cases column.calculated <;>
    simp [announced, properties, tame_append_iff mark]

end Column

namespace Model

/-- The definitions in the table of a model with the given foreign keys. -/
def definitions (model : Model) (keys : List ForeignKey) : List String :=
  model.physicalColumns.map (·.definition model.key?) ++ keys.map ForeignKey.clause

/-- The names, types and key columns in a model's table have no line breaks. -/
structure SingleLine (model : Model) (keys : List ForeignKey) : Prop where
  name : '\n' ∉ model.name.toList
  columns : ∀ column ∈ model.physicalColumns,
    '\n' ∉ column.name.toList ∧ '\n' ∉ column.type.toList
  keys : ∀ key ∈ keys,
    '\n' ∉ key.column.toList ∧ '\n' ∉ key.references.toList ∧ '\n' ∉ key.primaryKey.toList

/-- The block of a model keeps properties and expressions inside of comments. -/
structure Confines (model : Model) (keys : List ForeignKey) (text : String) : Prop where
  table : ConfinesTable (model.definitions keys) text model.header model.name
  comment : ∀ properties, model.properties = some properties → properties ≠ [] →
    Text.leadingComment? text.toList = some (propertiesComment properties)

/-- The properties and expressions that a model's block shows do not break out of comments. -/
structure IsTame (model : Model) (keys : List ForeignKey) : Prop where
  expressions : ∀ column ∈ model.physicalColumns, column.calculated = true →
    Tame (model.definitions keys) (column.expression.getD "")
  properties : ∀ properties, model.properties = some properties →
    ¬(Json.object properties).MentionsCommentEnd

variable {model : Model} {keys : List ForeignKey}

theorem SingleLine.definitions
    (single : model.SingleLine keys) :
    ∀ definition ∈ model.definitions keys, '\n' ∉ definition.toList := by
  intro definition inside
  rcases List.mem_append.mp inside with ofColumn | ofKey
  · obtain ⟨column, declared, rfl⟩ := List.mem_map.mp ofColumn
    obtain ⟨name, type⟩ := single.columns column declared
    unfold Column.definition
    split <;> simp [name, type]
  · obtain ⟨key, given, rfl⟩ := List.mem_map.mp ofKey
    obtain ⟨column, references, primaryKey⟩ := single.keys key given
    unfold ForeignKey.clause
    simp [column, references, primaryKey]

theorem forall_mem_entries_iff {property : TableEntry → Prop} :
    (∀ entry ∈ model.entries keys, property entry) ↔
      (∀ column ∈ model.physicalColumns,
        property ⟨column.notes, column.definition model.key?⟩) ∧
        ∀ key ∈ keys, property ⟨[], key.clause⟩ := by
  rw [entries, List.forall_mem_append, List.forall_mem_map, List.forall_mem_map]

theorem definition_mem (model : Model) (keys : List ForeignKey) :
    ∀ entry ∈ model.entries keys, entry.definition ∈ model.definitions keys := by
  simp only [forall_mem_entries_iff, definitions, List.mem_append, List.mem_map]
  exact ⟨fun column inside => .inl ⟨column, inside, rfl⟩, fun key inside => .inr ⟨key, inside, rfl⟩⟩

theorem confinesTable_table_iff (single : model.SingleLine keys) :
    ConfinesTable (model.definitions keys) (model.table keys) model.header model.name ↔
      ∀ column ∈ model.physicalColumns, column.calculated = true →
        Tame (model.definitions keys) (column.expression.getD "") := by
  have noted : ∀ entry ∈ model.entries keys, ∀ note ∈ entry.notes, ['-', '-'] <+: note.toList :=
    forall_mem_entries_iff.mpr
      ⟨fun _ _ _ => Column.comment_of_mem_notes, fun _ _ => List.forall_mem_nil _⟩
  rw [table_eq_createTable, confinesTable_createTable_iff model.endsLine_header single.name
    (definition_mem model keys) single.definitions noted, forall_mem_entries_iff]
  simp [Column.tame_notes_iff]

/-- The comment in front of a model's table carries exactly the properties, if it can. -/
theorem leadingComment?_table_iff
    {properties : Properties}
    (shown : model.properties = some properties)
    (nonempty : properties ≠ []) :
    Text.leadingComment? (model.table keys).toList = some (propertiesComment properties) ↔
      ¬(Json.object properties).MentionsCommentEnd := by
  have blank : IsIndentation ['\n'] := by decide
  have header : model.header = "\n/* " ++ propertiesText properties ++ " */\n" := by
    obtain ⟨first, rest, rfl⟩ := List.exists_cons_of_ne_nil nonempty
    rw [Model.header, shown]
  obtain ⟨rest, split⟩ : ∃ rest, (model.table keys).toList =
      ['\n'] ++ '/' :: '*' :: (propertiesComment properties ++ '*' :: '/' :: rest) := by
    rw [table, createTable, header]
    exact ⟨_, by simp [propertiesComment]; rfl⟩
  rw [split]
  exact leadingComment?_properties_iff blank properties rest

/-- A model's block keeps free text inside of comments exactly if that text is tame. -/
theorem confines_table_iff (single : model.SingleLine keys) :
    model.Confines keys (model.table keys) ↔ model.IsTame keys := by
  constructor
  · rintro ⟨table, comment⟩
    refine ⟨(confinesTable_table_iff single).mp table, fun properties shown => ?_⟩
    rcases properties with _ | ⟨first, rest⟩
    · exact Json.not_mentionsCommentEnd_object_nil
    · exact (leadingComment?_table_iff shown (List.cons_ne_nil _ _)).mp
        (comment _ shown (List.cons_ne_nil _ _))
  · rintro ⟨expressions, properties⟩
    refine ⟨(confinesTable_table_iff single).mpr expressions, ?_⟩
    intro shown present nonempty
    exact (leadingComment?_table_iff present nonempty).mpr (properties shown present)

end Model

/-! ## Metrics -/

namespace Metric

/-- The definitions in the table of a metric. -/
def definitions (metric : Metric) : List String :=
  (metric.dimension ++ metric.measure).map MetricColumn.definition

/-- The names and types in a metric's table have no line breaks. -/
structure SingleLine (metric : Metric) : Prop where
  name : '\n' ∉ metric.name.toList
  columns : ∀ column ∈ metric.dimension ++ metric.measure,
    '\n' ∉ column.name.toList ∧ '\n' ∉ column.type.toList

/-- The block of a metric keeps expressions inside of comments. -/
def Confines (metric : Metric) (text : String) : Prop :=
  ConfinesTable metric.definitions text metric.header metric.name

/-- The expressions that a metric's block shows do not break out of comments. -/
def IsTame (metric : Metric) : Prop :=
  ∀ column ∈ metric.measure, Tame metric.definitions (column.expression.getD "")

variable {metric : Metric}

theorem SingleLine.definitions
    (single : metric.SingleLine) :
    ∀ definition ∈ metric.definitions, '\n' ∉ definition.toList := by
  intro definition inside
  obtain ⟨column, declared, rfl⟩ := List.mem_map.mp inside
  obtain ⟨name, type⟩ := single.columns column declared
  unfold MetricColumn.definition
  simp [name, type]

theorem forall_mem_entries_iff {property : TableEntry → Prop} :
    (∀ entry ∈ metric.entries, property entry) ↔
      (∀ column ∈ metric.dimension,
        property ⟨["-- This column is a dimension"], column.definition⟩) ∧
        ∀ column ∈ metric.measure, property ⟨column.measureNotes, column.definition⟩ := by
  rw [entries, List.forall_mem_append, List.forall_mem_map, List.forall_mem_map]

theorem definition_mem (metric : Metric) :
    ∀ entry ∈ metric.entries, entry.definition ∈ metric.definitions := by
  simp only [forall_mem_entries_iff, definitions, List.map_append, List.mem_append, List.mem_map]
  exact ⟨fun column inside => .inl ⟨column, inside, rfl⟩,
    fun column inside => .inr ⟨column, inside, rfl⟩⟩

/-- A metric's block keeps expressions inside of comments exactly if they are tame. -/
theorem confines_table_iff (single : metric.SingleLine) :
    metric.Confines metric.table ↔ metric.IsTame := by
  have noted : ∀ entry ∈ metric.entries, ∀ note ∈ entry.notes, ['-', '-'] <+: note.toList :=
    forall_mem_entries_iff.mpr ⟨by simp, by simp [MetricColumn.measureNotes]⟩
  have mark : '\n' ∉ "-- expression: ".toList := by decide
  have dimension : Tame metric.definitions "-- This column is a dimension" :=
    tame_of_not_mem (by decide)
  have measure : Tame metric.definitions "-- This column is a measure" :=
    tame_of_not_mem (by decide)
  rw [Confines, table_eq_createTable, confinesTable_createTable_iff metric.endsLine_header
    single.name (definition_mem metric) single.definitions noted, forall_mem_entries_iff]
  simp [MetricColumn.measureNotes, dimension, measure, tame_append_iff mark, IsTame]

end Metric

/-! ## Views -/

namespace View

/-- The block of a view keeps its properties inside of the comment in front. -/
def Confines (view : View) (text : String) : Prop :=
  ∀ properties, view.properties = some properties →
    Text.leadingComment? text.toList = some (propertiesComment properties)

/-- The properties of a view do not break out of a comment. -/
def IsTame (view : View) : Prop :=
  ∀ properties, view.properties = some properties →
    ¬(Json.object properties).MentionsCommentEnd

/-- A view's block keeps its properties inside of the comment exactly if they are tame. -/
theorem confines_definition_iff {view : View} :
    view.Confines view.definition ↔ view.IsTame := by
  have blank : IsIndentation [] := List.forall_mem_nil _
  apply forall₂_congr
  intro properties shown
  obtain ⟨rest, split⟩ : ∃ rest, view.definition.toList =
      [] ++ '/' :: '*' :: (propertiesComment properties ++ '*' :: '/' :: rest) := by
    rw [definition, shown]
    exact ⟨_, by simp [propertiesComment]; rfl⟩
  rw [split]
  exact leadingComment?_properties_iff blank properties rest

end View

/-! ## Documents -/

namespace Manifest

/-- Every document keeps free text inside of comments exactly if that text is tame. -/
structure ConfinesTameText (manifest : Manifest) (documents : List Document) : Prop where
  models : ∀ (position : Nat) (model : Model), manifest.models[position]? = some model →
    ∃ document keys, documents[position]? = some document ∧
      manifest.foreignKeys model.name = .ok keys ∧
      (model.SingleLine keys → (model.Confines keys document.content ↔ model.IsTame keys))
  metrics : ∀ (position : Nat) (metric : Metric), manifest.metrics[position]? = some metric →
    ∃ document, documents[manifest.models.length + position]? = some document ∧
      (metric.SingleLine → (metric.Confines document.content ↔ metric.IsTame))
  views : ∀ (position : Nat) (view : View), manifest.views[position]? = some view →
    ∃ document,
      documents[manifest.models.length + manifest.metrics.length + position]? = some document ∧
        (view.Confines document.content ↔ view.IsTame)

theorem confinesTameText_of_compile
    {manifest : Manifest}
    {documents : List Document}
    (compiled : manifest.compile = .ok documents) :
    manifest.ConfinesTameText documents := by
  have emits := emits_of_compile compiled
  constructor
  · intro position model declared
    obtain ⟨document, keys, found, resolved, block⟩ := emits.models position model declared
    refine ⟨document, keys, found, resolved, fun single => ?_⟩
    rw [Model.isBlock_iff.mp block]
    exact Model.confines_table_iff single
  · intro position metric declared
    obtain ⟨document, found, block⟩ := emits.metrics position metric declared
    refine ⟨document, found, fun single => ?_⟩
    rw [Metric.isBlock_iff.mp block]
    exact Metric.confines_table_iff single
  · intro position view declared
    obtain ⟨document, found, block⟩ := emits.views position view declared
    refine ⟨document, found, ?_⟩
    have content : document.content = view.definition := block
    rw [content]
    exact View.confines_definition_iff

/-- Orders with texts that stay inside of comments, and a view with one that does not. -/
def pricedOrders : Manifest where
  models := [
    ⟨"orders", some [("description", .string "One order\neach")], [
      ⟨"price", "double", none, none, none, none, []⟩,
      ⟨"total", "double", none, none, some "price\n  -- times quantity", some true, []⟩],
      some "price", []⟩]
  relationships := []
  metrics := [⟨"revenue", "orders", [], [⟨"sum", "double", some "sum(total)", []⟩], []⟩]
  views := [⟨"best", "SELECT 1", some [("note", .string "see */ below")], []⟩]
  extra := []

theorem confinesTameText_of_compile_pricedOrders :
    (∀ model ∈ pricedOrders.models, model.SingleLine [] ∧ model.IsTame []) ∧
      (∀ view ∈ pricedOrders.views, ¬view.IsTame) ∧
      ∃ documents, pricedOrders.compile = .ok documents ∧
        pricedOrders.ConfinesTameText documents := by
  refine ⟨List.forall_mem_singleton.mpr ⟨?_, ?_⟩, List.forall_mem_singleton.mpr ?_, _, rfl,
    confinesTameText_of_compile rfl⟩
  · constructor <;> decide
  · constructor
    · decide
    · rintro _ ⟨⟩
      rw [Json.mentionsCommentEnd_object_cons_iff, Json.mentionsCommentEnd_string_iff]
      rintro (key | text | rest)
      · exact Text.not_endsComment_of_not_mem (by decide) key
      · exact Text.not_endsComment_of_not_mem (by decide) text
      · exact Json.not_mentionsCommentEnd_object_nil rest
  · intro tame
    apply tame _ rfl
    rw [Json.mentionsCommentEnd_object_cons_iff, Json.mentionsCommentEnd_string_iff]
    exact .inr (.inl ⟨"see ".toList, " below".toList, rfl⟩)

/-- Orders with an expression over two lines. -/
def brokenExpression : Model :=
  ⟨"orders", none, [⟨"total", "double", none, none, some "price\n* quantity", some true, []⟩],
    none, []⟩

/-- The document of these orders. -/
def brokenTable : String :=
  "CREATE TABLE orders (\n  -- This column is a Calculated Field\n" ++
    "  -- column expression: price\n* quantity\n  total double\n);"

/-- The second line of the expression stands in the table as if it were a definition. -/
theorem compile_spills_expression :
    (Manifest.mk [brokenExpression] [] [] [] []).compile = .ok [⟨"0", brokenTable⟩] ∧
      brokenExpression.SingleLine [] ∧ ¬brokenExpression.Confines [] brokenTable := by
  have single : brokenExpression.SingleLine [] := by
    constructor <;> decide
  have table : brokenTable = brokenExpression.table [] := rfl
  refine ⟨rfl, single, ?_⟩
  rw [table, Model.confines_table_iff single]
  intro tame
  have spilled := tame.expressions _ (List.mem_singleton_self _) rfl
  revert spilled
  decide

end Manifest

end SemanticIndex
