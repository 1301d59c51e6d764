import SemanticIndex.Proofs.Ddl.Emission
import SemanticIndex.Proofs.Json.Characters

/-!
# Lines of a table

A table definition has its opening line, a body and its end.  Each entry of the table is a
definition with notes in front of it, and the body has the entries one after another: every note
starts a line and may go on over several ones, while a definition without line breaks takes one.
-/

namespace SemanticIndex

/-! ## Entries -/

/-- An entry of a table: a definition behind the notes on it. -/
structure TableEntry where
  notes : List String
  definition : String

namespace TableEntry

/-- The text of an entry inside of a table. -/
def text (entry : TableEntry) : String :=
  entry.notes.foldr (fun note rest => note ++ "\n  " ++ rest) entry.definition

/-- An indented text. -/
def indented (characters : List Char) : List Char :=
  ' ' :: ' ' :: characters

/-- The lines of an entry, whose last one is its definition in front of the given ending. -/
def linesWith (ending : List Char) (entry : TableEntry) : List (List Char) :=
  entry.notes.flatMap (fun note => Text.lines (indented note.toList)) ++
    [indented (entry.definition.toList ++ ending)]

/-- The lines between the opening line of a table and its end. -/
def body : List TableEntry → List (List Char)
  | [] => [indented []]
  | [entry] => entry.linesWith []
  | entry :: rest => entry.linesWith [','] ++ body rest

theorem lines_text
    {entry : TableEntry}
    (definition : '\n' ∉ entry.definition.toList)
    {ending : List Char}
    (endingLine : '\n' ∉ ending) :
    Text.lines (indented (entry.text.toList ++ ending)) = entry.linesWith ending := by
  obtain ⟨notes, shown⟩ := entry
  induction notes with
  | nil =>
    apply Text.lines_of_not_mem
    simpa [indented, text, endingLine] using definition
  | cons note notes induction =>
    have split : indented ((TableEntry.text ⟨note :: notes, shown⟩).toList ++ ending) =
        indented note.toList ++
          '\n' :: indented ((TableEntry.text ⟨notes, shown⟩).toList ++ ending) := by
      simp [indented, text]
    rw [split, Text.lines_append_break, induction definition]
    simp [linesWith]

/-- Entries set off by commas take the lines of the body. -/
theorem lines_entries
    {entries : List TableEntry}
    (definitions : ∀ entry ∈ entries, '\n' ∉ entry.definition.toList) :
    Text.lines (indented (String.intercalate ",\n  " (entries.map text)).toList) =
      body entries := by
  induction entries with
  | nil => rfl
  | cons entry rest induction =>
    obtain ⟨definition, others⟩ := List.forall_mem_cons.mp definitions
    cases rest with
    | nil =>
      have single := lines_text definition (List.not_mem_nil (a := '\n'))
      rw [List.append_nil] at single
      simpa [body] using single
    | cons next rest =>
      have split : indented (String.intercalate ",\n  " ((entry :: next :: rest).map text)).toList =
          indented (entry.text.toList ++ [',']) ++
            '\n' :: indented (String.intercalate ",\n  " ((next :: rest).map text)).toList := by
        simp [indented, String.toList_intercalate]
      rw [split, Text.lines_append_break, lines_text definition (by decide), induction others]
      rfl

end TableEntry

/-! ## Tables -/

/-- The body of a text between the opening line of a table, behind a header, and its end. -/
def HasBody (text header name : String) (body : List (List Char)) : Prop :=
  Text.lines text.toList =
    (Text.lines header.toList).dropLast ++
      ("CREATE TABLE " ++ name ++ " (").toList :: (body ++ [[')', ';']])

theorem HasBody.unique
    {text header name : String}
    {body other : List (List Char)}
    (has : HasBody text header name body)
    (hasOther : HasBody text header name other) :
    body = other := by
  have same := List.append_cancel_left (has.symm.trans hasOther)
  exact List.append_cancel_right (List.cons.inj same).2

theorem hasBody_createTable
    {header name : String}
    (headerLines : Text.EndsLine header.toList)
    (nameLine : '\n' ∉ name.toList)
    {entries : List TableEntry}
    (definitions : ∀ entry ∈ entries, '\n' ∉ entry.definition.toList) :
    HasBody (createTable header name (entries.map TableEntry.text)) header name
      (TableEntry.body entries) := by
  have ending : '\n' ∉ [')', ';'] := by decide
  have opening : '\n' ∉ ("CREATE TABLE " ++ name ++ " (").toList := by
    simpa using nameLine
  have split : (createTable header name (entries.map TableEntry.text)).toList =
      header.toList ++ (("CREATE TABLE " ++ name ++ " (").toList ++ '\n' ::
        (TableEntry.indented (String.intercalate ",\n  " (entries.map TableEntry.text)).toList ++
          '\n' :: [')', ';'])) := by
    simp [createTable, TableEntry.indented]
  rw [HasBody, split, Text.lines_append_of_endsLine headerLines, Text.lines_append_break,
    Text.lines_append_break, Text.lines_of_not_mem opening, TableEntry.lines_entries definitions,
    Text.lines_of_not_mem ending]
  rfl

/-! ## Models -/

theorem Model.endsLine_header (model : Model) : Text.EndsLine model.header.toList := by
  unfold header
  split
  · rename_i first rest _
    exact .inr ⟨("\n/* " ++ propertiesText (first :: rest) ++ " */").toList, by simp⟩
  · exact .inl rfl

/-- The notes on a column. -/
def Column.notes (column : Column) : List String :=
  (column.properties.map fun properties => "-- " ++ propertiesText properties).toList ++
    if column.calculated then
      ["-- This column is a Calculated Field",
        "-- column expression: " ++ column.expression.getD ""]
    else []

theorem Column.entry_eq_text
    (column : Column)
    (primaryKey : Option String) :
    column.entry primaryKey =
      TableEntry.text ⟨column.notes, column.definition primaryKey⟩ := by
  apply String.toList_inj.mp
  unfold Column.entry Column.comments Column.notes
  cases column.properties <;> cases column.calculated <;> simp [TableEntry.text]

/-- The entries of a model's table with the given foreign keys. -/
def Model.entries (model : Model) (keys : List ForeignKey) : List TableEntry :=
  model.physicalColumns.map (fun column => ⟨column.notes, column.definition model.key?⟩) ++
    keys.map fun key => ⟨[], key.clause⟩

theorem Model.table_eq_createTable
    (model : Model)
    (keys : List ForeignKey) :
    model.table keys =
      createTable model.header model.name ((model.entries keys).map TableEntry.text) := by
  simp only [Model.table, Model.entries, List.map_append, List.map_map, Function.comp_def,
    ← Column.entry_eq_text]
  rfl

/-! ## Metrics -/

/-- The definition that a metric's table has of a dimension or measure. -/
def MetricColumn.definition (column : MetricColumn) : String :=
  column.name ++ " " ++ column.type

/-- The notes on a measure. -/
def MetricColumn.measureNotes (column : MetricColumn) : List String :=
  ["-- This column is a measure", "-- expression: " ++ column.expression.getD ""]

/-- The entries of a metric's table. -/
def Metric.entries (metric : Metric) : List TableEntry :=
  metric.dimension.map (fun column => ⟨["-- This column is a dimension"], column.definition⟩) ++
    metric.measure.map fun column => ⟨column.measureNotes, column.definition⟩

/-- The comment in front of a metric's table. -/
def Metric.header (metric : Metric) : String :=
  "\n/* This table is a metric */\n/* Metric Base Object: " ++ metric.baseObject ++ " */\n"

theorem Metric.endsLine_header (metric : Metric) : Text.EndsLine metric.header.toList := by
  unfold header
  exact .inr ⟨("\n/* This table is a metric */\n/* Metric Base Object: " ++ metric.baseObject ++
    " */").toList, by simp⟩

theorem Metric.table_eq_createTable (metric : Metric) :
    metric.table =
      createTable metric.header metric.name (metric.entries.map TableEntry.text) := by
  have dimension (column : MetricColumn) : column.dimensionEntry =
      TableEntry.text ⟨["-- This column is a dimension"], column.definition⟩ := by
    apply String.toList_inj.mp
    unfold MetricColumn.dimensionEntry MetricColumn.definition TableEntry.text
    simp
  have measure (column : MetricColumn) : column.measureEntry =
      TableEntry.text ⟨column.measureNotes, column.definition⟩ := by
    apply String.toList_inj.mp
    unfold MetricColumn.measureEntry MetricColumn.definition MetricColumn.measureNotes
      TableEntry.text
    simp
  simp only [Metric.table, Metric.entries, List.map_append, List.map_map, Function.comp_def,
    ← dimension, ← measure]
  rfl

end SemanticIndex
