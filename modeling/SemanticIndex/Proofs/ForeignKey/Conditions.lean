import SemanticIndex.Proofs.ForeignKey.Dependence
import SemanticIndex.Proofs.Text.Trimming

/-!
# How conditions are written

A name is written bare or in double quotes, with blanks around it; a reference is written with a
dot between its two names and a condition with an equals sign between its two references.  Every
text that writes a condition is read as that condition, and every other text is refused.

A bare name may be any text that blanks and quotes leave alone, and only the first dot of a
reference divides it, so a column may have dots.
-/

namespace SemanticIndex

/-! ## Names -/

/-- A text in double quotes. -/
def IsQuoted (characters : List Char) : Prop :=
  ∃ inner, characters = '"' :: (inner ++ ['"'])

theorem unquote_quoted (inner : List Char) : unquote ('"' :: (inner ++ ['"'])) = inner := by
  simp [unquote]

theorem unquote_of_not_isQuoted
    {characters : List Char}
    (unquoted : ¬IsQuoted characters) :
    unquote characters = characters := by
  unfold unquote
  split
  · rename_i rest
    rw [if_neg]
    intro closed
    obtain ⟨inner, rfl⟩ := List.getLast?_eq_some_iff.mp (beq_iff_eq.mp closed)
    exact unquoted ⟨inner, rfl⟩
  · rfl

theorem isTrimmed_quoted (inner : List Char) :
    Text.IsTrimmed ('"' :: (inner ++ ['"'])) where
  first := by simp [show Text.isBlank '"' = false from rfl]
  last := by
    rw [← List.cons_append, List.getLast?_concat]
    simp [show Text.isBlank '"' = false from rfl]

/-- The texts that a name may stand as in a condition. -/
inductive WritesName (name : String) : List Char → Prop where
  | bare {part}
      (trimmed : Text.IsTrimmed name.toList)
      (unquoted : ¬IsQuoted name.toList)
      (padded : Text.Padded name.toList part) :
      WritesName name part
  | quoted {part}
      (padded : Text.Padded ('"' :: (name.toList ++ ['"'])) part) :
      WritesName name part

/-- A part of a reference writes the identifier in it and no other name. -/
theorem writesName_iff
    {name : String}
    {part : List Char} :
    WritesName name part ↔ String.ofList (identifier part) = name := by
  constructor
  · rintro (⟨trimmed, unquoted, padded⟩ | ⟨padded⟩)
    · rw [identifier, Text.trim_eq_iff.mpr ⟨trimmed, padded⟩, unquote_of_not_isQuoted unquoted,
        String.ofList_toList]
    · rw [identifier, Text.trim_eq_iff.mpr ⟨isTrimmed_quoted _, padded⟩, unquote_quoted,
        String.ofList_toList]
  · rintro rfl
    have padded := Text.padded_trim part
    by_cases quoted : IsQuoted (Text.trim part)
    · obtain ⟨inner, trimmed⟩ := quoted
      apply WritesName.quoted
      rwa [identifier, trimmed, unquote_quoted, String.toList_ofList, ← trimmed]
    · have same := unquote_of_not_isQuoted quoted
      apply WritesName.bare <;> rw [identifier, same, String.toList_ofList]
      exacts [Text.isTrimmed_trim part, quoted, padded]

/-- Writing a name adds blanks and double quotes to it and nothing else. -/
theorem WritesName.mem_iff
    {name : String}
    {part : List Char}
    (writes : WritesName name part)
    {mark : Char}
    (notBlank : Text.isBlank mark = false)
    (notQuote : mark ≠ '"') :
    mark ∈ part ↔ mark ∈ name.toList := by
  rcases writes with ⟨_, _, padded⟩ | ⟨padded⟩
  · exact padded.mem_iff notBlank
  · simp [padded.mem_iff notBlank, notQuote]

theorem writesName_empty_iff {part : List Char} : WritesName "" part ↔ identifier part = [] := by
  rw [writesName_iff, String.ofList_eq_empty_iff]

/-! ## References -/

theorem identifier_append_left
    {front : List Char}
    (leading : Text.AllBlank front)
    (part : List Char) :
    identifier (front ++ part) = identifier part := by
  rw [identifier, Text.trim_append_left leading, identifier]

theorem identifier_append_right
    {back : List Char}
    (trailing : Text.AllBlank back)
    (part : List Char) :
    identifier (part ++ back) = identifier part := by
  rw [identifier, Text.trim_append_right trailing, identifier]

namespace ColumnReference

theorem read?_of_not_mem
    {side : List Char}
    (undotted : '.' ∉ side) :
    read? side = none := by
  have absent : '.' ∉ Text.trim side :=
    mt ((Text.padded_trim side).mem_iff rfl).mpr undotted
  rw [read?, Text.cutAt?_eq_none_iff.mpr absent]
  rfl

/-- Blanks around a whole reference are blanks around its parts. -/
theorem read?_append
    {table : List Char}
    (undotted : '.' ∉ table)
    (column : List Char) :
    read? (table ++ '.' :: column) =
      if identifier table = [] ∨ identifier column = [] then none
      else some ⟨String.ofList (identifier table), String.ofList (identifier column)⟩ := by
  obtain ⟨front, back, leading, trailing, whole⟩ := Text.padded_trim (table ++ '.' :: column)
  have dotted : '.' ∈ Text.trim (table ++ '.' :: column) :=
    ((Text.padded_trim _).mem_iff rfl).mp (by simp)
  obtain ⟨innerTable, innerColumn, split, innerUndotted⟩ := List.eq_append_cons_of_mem dotted
  have frontUndotted : '.' ∉ front := fun inside => nomatch leading '.' inside
  have undottedTable : '.' ∉ front ++ innerTable := by simp [frontUndotted, innerUndotted]
  rw [split, List.append_assoc, List.cons_append, ← List.append_assoc] at whole
  obtain ⟨sameTable, sameColumn⟩ := Text.append_mark_inj whole undotted undottedTable
  rw [read?, split, Text.cutAt?_append innerUndotted, sameTable, sameColumn,
    identifier_append_left leading, identifier_append_right trailing]
  simp

/-- The texts that a reference may stand as in a condition. -/
inductive Writes (reference : ColumnReference) : List Char → Prop where
  | dotted {table column}
      (writesTable : WritesName reference.table table)
      (writesColumn : WritesName reference.column column)
      (undotted : '.' ∉ reference.table.toList)
      (named : reference.table ≠ "" ∧ reference.column ≠ "") :
      Writes reference (table ++ '.' :: column)

/-- A side of a condition that writes no reference: it has no dot, or a name in it is empty. -/
inductive Missing (side : List Char) : Prop where
  | undotted (absent : '.' ∉ side)
  | unnamed {table column}
      (split : side = table ++ '.' :: column)
      (undotted : '.' ∉ table)
      (empty : WritesName "" table ∨ WritesName "" column)

variable {reference : ColumnReference} {side : List Char}

/-- A side is read as a reference exactly if it writes that reference. -/
theorem read?_eq_some_iff : read? side = some reference ↔ reference.Writes side := by
  constructor
  · intro read
    have dotted : '.' ∈ side := by
      by_contra undotted
      exact nomatch read.symm.trans (read?_of_not_mem undotted)
    obtain ⟨table, column, rfl, undotted⟩ := List.eq_append_cons_of_mem dotted
    rw [read?_append undotted] at read
    split at read
    · exact nomatch read
    · rename_i named
      obtain rfl := Option.some.inj read
      rw [not_or] at named
      have writesTable : WritesName (String.ofList (identifier table)) table :=
        writesName_iff.mpr rfl
      refine .dotted writesTable (writesName_iff.mpr rfl) (mt ?_ undotted) ?_
      · exact (writesTable.mem_iff rfl (by decide)).mpr
      · rwa [ne_eq, ne_eq, String.ofList_eq_empty_iff, String.ofList_eq_empty_iff]
  · rintro ⟨writesTable, writesColumn, undotted, named⟩
    rw [read?_append (mt (writesTable.mem_iff rfl (by decide)).mp undotted)]
    obtain ⟨table, column⟩ := reference
    obtain rfl := writesName_iff.mp writesTable
    obtain rfl := writesName_iff.mp writesColumn
    rw [ne_eq, ne_eq, String.ofList_eq_empty_iff, String.ofList_eq_empty_iff, ← not_or] at named
    rw [if_neg named]

theorem read?_eq_none_iff : read? side = none ↔ Missing side := by
  constructor
  · intro read
    by_cases dotted : '.' ∈ side
    · obtain ⟨table, column, rfl, undotted⟩ := List.eq_append_cons_of_mem dotted
      rw [read?_append undotted, ite_eq_left_iff] at read
      apply Missing.unnamed rfl undotted
      rw [writesName_empty_iff, writesName_empty_iff]
      by_contra named
      exact nomatch read named
    · exact .undotted dotted
  · rintro (undotted | ⟨rfl, undotted, empty⟩)
    · exact read?_of_not_mem undotted
    · rw [writesName_empty_iff, writesName_empty_iff] at empty
      rw [read?_append undotted, if_pos empty]

/-- A mark that belongs to no writing stands in a side exactly if it stands in a name. -/
theorem Writes.mem_iff
    (writes : reference.Writes side)
    {mark : Char}
    (notBlank : Text.isBlank mark = false)
    (notQuote : mark ≠ '"')
    (notDot : mark ≠ '.') :
    mark ∈ side ↔ mark ∈ reference.table.toList ∨ mark ∈ reference.column.toList := by
  obtain ⟨writesTable, writesColumn, _, _⟩ := writes
  rw [List.mem_append, List.mem_cons, writesTable.mem_iff notBlank notQuote,
    writesColumn.mem_iff notBlank notQuote]
  simp [notDot]

end ColumnReference

/-! ## Conditions -/

namespace Condition

theorem count_eq_one_iff
    {characters left right : List Char}
    (split : characters = left ++ '=' :: right) :
    characters.count '=' = 1 ↔ '=' ∉ left ∧ '=' ∉ right := by
  rw [split, List.count_append, List.count_cons_self, ← List.count_eq_zero, ← List.count_eq_zero]
  omega

theorem read?_of_count_ne_one
    {text : String}
    (several : text.toList.count '=' ≠ 1) :
    read? text = none := by
  by_cases equal : '=' ∈ text.toList
  · obtain ⟨left, right, split, outside⟩ := List.eq_append_cons_of_mem equal
    have again : '=' ∈ right := by
      by_contra rightOutside
      exact several ((count_eq_one_iff split).mpr ⟨outside, rightOutside⟩)
    rw [read?, split, Text.cutAt?_append outside]
    simp [again]
  · rw [read?, Text.cutAt?_eq_none_iff.mpr equal]
    rfl

/-- A text with one equals sign is a condition if there is a reference on either side of it. -/
theorem read?_of_split
    {text : String}
    {left right : List Char}
    (split : text.toList = left ++ '=' :: right)
    (leftOutside : '=' ∉ left)
    (rightOutside : '=' ∉ right) :
    read? text = (ColumnReference.read? left).bind fun leftReference =>
      (ColumnReference.read? right).bind fun rightReference =>
        some ⟨leftReference, rightReference⟩ := by
  rw [read?, split, Text.cutAt?_append leftOutside]
  simp [rightOutside]

/-- A text is no condition, or the only equals sign in it has a side to the left and right. -/
theorem read?_cases (text : String) :
    (text.toList.count '=' ≠ 1 ∧ read? text = none) ∨
      ∃ left right, text.toList = left ++ '=' :: right ∧ '=' ∉ left ∧ '=' ∉ right := by
  by_cases single : text.toList.count '=' = 1
  · have equal : '=' ∈ text.toList := List.count_pos_iff.mp (by omega)
    obtain ⟨left, right, split⟩ := List.append_of_mem equal
    exact .inr ⟨left, right, split, (count_eq_one_iff split).mp single⟩
  · exact .inl ⟨single, read?_of_count_ne_one single⟩

/-- The texts that a condition may stand as. -/
inductive Writes (condition : Condition) (text : String) : Prop where
  | equation {left right}
      (split : text.toList = left ++ '=' :: right)
      (writesLeft : condition.left.Writes left)
      (writesRight : condition.right.Writes right)
      (leftNames : '=' ∉ condition.left.table.toList ∧ '=' ∉ condition.left.column.toList)
      (rightNames : '=' ∉ condition.right.table.toList ∧ '=' ∉ condition.right.column.toList)

/-- The texts that write no condition. -/
inductive IsMalformed (text : String) : Prop where
  | noEquation
      (several : text.toList.count '=' ≠ 1)
  | noReference {left right}
      (split : text.toList = left ++ '=' :: right)
      (missing : ColumnReference.Missing left ∨ ColumnReference.Missing right)

variable {condition : Condition} {text : String}

/-- A side has an equals sign exactly if a name in it has one. -/
theorem not_mem_side_iff
    {reference : ColumnReference}
    {side : List Char}
    (writes : reference.Writes side) :
    '=' ∉ side ↔ '=' ∉ reference.table.toList ∧ '=' ∉ reference.column.toList := by
  rw [writes.mem_iff rfl (by decide) (by decide), not_or]

/-- A text is read as a condition exactly if it writes that condition. -/
theorem read?_eq_some_iff : read? text = some condition ↔ condition.Writes text := by
  constructor
  · intro read
    rcases read?_cases text with ⟨_, unread⟩ | ⟨left, right, split, leftOutside, rightOutside⟩
    · exact nomatch read.symm.trans unread
    · simp only [read?_of_split split leftOutside rightOutside, Option.bind_eq_some_iff,
        ColumnReference.read?_eq_some_iff] at read
      obtain ⟨leftReference, writesLeft, rightReference, writesRight, same⟩ := read
      obtain rfl := Option.some.inj same
      exact .equation split writesLeft writesRight ((not_mem_side_iff writesLeft).mp leftOutside)
        ((not_mem_side_iff writesRight).mp rightOutside)
  · rintro ⟨split, writesLeft, writesRight, leftNames, rightNames⟩
    rw [read?_of_split split ((not_mem_side_iff writesLeft).mpr leftNames)
      ((not_mem_side_iff writesRight).mpr rightNames),
      ColumnReference.read?_eq_some_iff.mpr writesLeft,
      ColumnReference.read?_eq_some_iff.mpr writesRight]
    rfl

/-- A text is refused exactly if it writes no condition. -/
theorem read?_eq_none_iff : read? text = none ↔ IsMalformed text := by
  constructor
  · intro unread
    rcases read?_cases text with ⟨several, _⟩ | ⟨left, right, split, leftOutside, rightOutside⟩
    · exact .noEquation several
    · rw [read?_of_split split leftOutside rightOutside] at unread
      apply IsMalformed.noReference split
      rw [← ColumnReference.read?_eq_none_iff, ← ColumnReference.read?_eq_none_iff]
      cases leftRead : ColumnReference.read? left with
      | none => exact .inl rfl
      | some leftReference =>
        rw [leftRead, Option.bind_some, Option.bind_eq_none_iff] at unread
        cases rightRead : ColumnReference.read? right with
        | none => exact .inr rfl
        | some rightReference => exact nomatch unread rightReference rightRead
  · rintro (several | ⟨split, missing⟩)
    · exact read?_of_count_ne_one several
    · by_cases single : text.toList.count '=' = 1
      · obtain ⟨leftOutside, rightOutside⟩ := (count_eq_one_iff split).mp single
        rw [read?_of_split split leftOutside rightOutside, Option.bind_eq_none_iff]
        intro leftReference leftRead
        rcases missing with missing | missing
        · exact nomatch leftRead.symm.trans (ColumnReference.read?_eq_none_iff.mpr missing)
        · rw [ColumnReference.read?_eq_none_iff.mpr missing]
          rfl
      · exact read?_of_count_ne_one single

end Condition

/-! ## Relationships -/

namespace Relationship

variable {models : List Model} {table : String} {relationship : Relationship} {side : Side}

/-- What is wrong with a relationship whose condition joins its models in their order. -/
def Unreferable (relationship : Relationship) (side : Side) (reason : ResolutionFailure) : Prop :=
  reason = .unknownModel (relationship.model side.opposite) ∨
    reason = .missingPrimaryKey (relationship.model side.opposite)

/-- A relevant relationship gives a key on the column in its condition, if it can be referred to. -/
theorem contribution_of_joins
    (concerns : relationship.Concerns table side)
    {condition : Condition}
    (joins : relationship.Joins condition) :
    (∃ primaryKey, contribution models table relationship =
      .ok (some ⟨(condition.reference side).column, relationship.model side.opposite,
        primaryKey⟩)) ∨
      ∃ reason, contribution models table relationship =
        .error (.resolution table relationship.label reason) ∧
          relationship.Unreferable side reason := by
  rcases keyOnSide_spec models relationship side with ⟨key, _, gives⟩ | ⟨reason, _, fails⟩
  · have computed := contribution_eq_ok_iff.mpr (.key concerns gives)
    obtain ⟨otherJoins, _, _, _⟩ := gives
    obtain rfl := Option.some.inj (joins.read.symm.trans otherJoins.read)
    exact .inl ⟨_, computed⟩
  · refine .inr ⟨reason, contribution_eq_error_iff.mpr ⟨reason, ⟨side, concerns, fails⟩, rfl⟩, ?_⟩
    cases fails with
    | malformed unread => exact nomatch unread.symm.trans joins.read
    | mismatched read differs =>
      obtain rfl := Option.some.inj (joins.read.symm.trans read)
      exact (differs joins).elim
    | unknown => exact .inl rfl
    | keyless => exact .inr rfl

theorem contribution_of_isMalformed
    (concerns : relationship.Concerns table side)
    (malformed : Condition.IsMalformed relationship.condition) :
    contribution models table relationship =
      .error (.resolution table relationship.label
        (.malformedCondition relationship.condition)) := by
  have fails : relationship.Fails models side (.malformedCondition relationship.condition) :=
    .malformed (Condition.read?_eq_none_iff.mpr malformed)
  exact contribution_eq_error_iff.mpr ⟨_, ⟨side, concerns, fails⟩, rfl⟩

end Relationship

/--
A text is read as the condition that it writes, and it is refused exactly if it writes none.
Behind relationships with nothing wrong with them, a relevant one whose condition writes its models
gives a key on the column of the table's own side or refers to a model that cannot be referred to;
one whose condition writes nothing is malformed.
-/
theorem conditions_read_as_written :
    (∀ text condition, Condition.read? text = some condition ↔ condition.Writes text) ∧
    (∀ text, Condition.read? text = none ↔ Condition.IsMalformed text) ∧
    ∀ models table before keys relationship after side,
      foreignKeys models table before = .ok keys → relationship.Concerns table side →
        (∀ condition : Condition, condition.Writes relationship.condition →
          condition.left.table = relationship.first →
          condition.right.table = relationship.second →
            (∃ primaryKey, foreignKeys models table (before ++ relationship :: after) =
              (foreignKeys models table after).map fun rest =>
                keys ++ ⟨(condition.reference side).column, relationship.model side.opposite,
                  primaryKey⟩ :: rest) ∨
            ∃ reason, foreignKeys models table (before ++ relationship :: after) =
                .error (.resolution table relationship.label reason) ∧
              relationship.Unreferable side reason) ∧
        (Condition.IsMalformed relationship.condition →
          foreignKeys models table (before ++ relationship :: after) =
            .error (.resolution table relationship.label
              (.malformedCondition relationship.condition))) := by
  refine ⟨fun _ _ => Condition.read?_eq_some_iff, fun _ => Condition.read?_eq_none_iff, ?_⟩
  intro models table before keys relationship after side resolved concerns
  rw [foreignKeys_append, resolved, foreignKeys_cons]
  constructor
  · intro condition writes left right
    have joins : relationship.Joins condition :=
      ⟨Condition.read?_eq_some_iff.mpr writes, left, right⟩
    rcases Relationship.contribution_of_joins concerns joins with
      ⟨primaryKey, computed⟩ | ⟨reason, computed, unreferable⟩
    · refine .inl ⟨primaryKey, ?_⟩
      rw [computed]
      cases foreignKeys models table after <;> rfl
    · refine .inr ⟨reason, ?_, unreferable⟩
      rw [computed]
      rfl
  · intro malformed
    rw [Relationship.contribution_of_isMalformed concerns malformed]
    rfl

/-- Orders with a blank in their name and a column with a dot, in a model named by a quote. -/
def quotedOrders : Relationship :=
  ⟨"", "my orders", "\"", .manyToOne, "\"my orders\" .\u00a0a.\"b = \".\t\" c \"", []⟩

def quotedCondition : Condition :=
  ⟨⟨"my orders", "a.\"b"⟩, ⟨"\"", " c "⟩⟩

theorem conditions_read_as_written_quoted :
    quotedCondition.Writes quotedOrders.condition ∧ quotedOrders.Concerns "my orders" .left ∧
      ((∃ primaryKey, foreignKeys [] "my orders" [quotedOrders] =
          .ok [⟨"a.\"b", "\"", primaryKey⟩]) ∨
        ∃ reason, foreignKeys [] "my orders" [quotedOrders] =
            .error (.resolution "my orders" quotedOrders.condition reason) ∧
          quotedOrders.Unreferable .left reason) ∧
      Condition.IsMalformed "a.x = b.y = c.z" := by
  have writes : quotedCondition.Writes quotedOrders.condition :=
    (conditions_read_as_written.1 _ _).mp rfl
  have concerns : quotedOrders.Concerns "my orders" .left := .manyToOne rfl rfl
  have keyed := (conditions_read_as_written.2.2 [] "my orders" [] [] quotedOrders [] .left rfl
    concerns).1 quotedCondition writes rfl rfl
  exact ⟨writes, concerns, keyed, (conditions_read_as_written.2.1 _).mp rfl⟩

end SemanticIndex
