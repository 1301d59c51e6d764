import Mathlib.Algebra.Group.Nat.Even
import SemanticIndex.Proofs.ForeignKey.Conditions

/-!
# What slips into the names of a condition

A condition is divided at its equals sign and at the first dots beside it, and everything else
belongs to the names.  So a comparison such as `<=` leaves its first mark in a column, and a further
dot or a further clause without an equals sign becomes the end of one.

A condition that gives a foreign key is an equality of two references exactly if nothing of that
kind stands in its names outside of double quotes.
-/

namespace SemanticIndex

/-! ## Outside of double quotes -/

/-- What stands outside of double-quoted parts, with the quotes around these. -/
def outsideQuotes (inside : Bool) : List Char → List Char
  | [] => []
  | character :: rest =>
    -- A quote that is never closed opens no part.
    if character = '"' then '"' :: outsideQuotes (!inside && rest.contains '"') rest
    else if inside then outsideQuotes inside rest
    else character :: outsideQuotes inside rest

theorem outsideQuotes_sublist
    (inside : Bool)
    (characters : List Char) :
    (outsideQuotes inside characters).Sublist characters := by
  fun_induction outsideQuotes inside characters with
  | case1 => exact List.Sublist.slnil
  | case2 _ _ induction => exact induction.cons_cons '"'
  | case3 character _ _ induction => exact induction.cons character
  | case4 _ character _ _ _ induction => exact induction.cons_cons character

/-- Double quotes that come in pairs quote nothing behind them. -/
theorem outsideQuotes_append
    {inside : Bool}
    {front : List Char}
    (paired : Even (front.count '"' + inside.toNat))
    (back : List Char) :
    outsideQuotes inside (front ++ back) =
      outsideQuotes inside front ++ outsideQuotes false back := by
  induction front generalizing inside with
  | nil =>
    cases inside with
    | false => rfl
    | true => exact absurd paired (by decide)
  | cons character rest induction =>
    by_cases quote : character = '"'
    · subst quote
      rw [List.count_cons_self, Nat.even_iff] at paired
      cases inside with
      | false =>
        have closed : '"' ∈ rest := List.count_pos_iff.mp (by simp at paired; omega)
        have restPaired : Even (rest.count '"' + true.toNat) := Nat.even_iff.mpr paired
        simp [outsideQuotes, closed, induction restPaired]
      | true =>
        have restPaired : Even (rest.count '"' + false.toNat) :=
          Nat.even_iff.mpr (by simp at paired ⊢; omega)
        simp [outsideQuotes, induction restPaired]
    · rw [List.count_cons_of_ne quote] at paired
      cases inside <;> simp [outsideQuotes, quote, induction paired]

/-! ## Equalities -/

/-- No blank stands between two other characters. -/
def IsUnbroken (characters : List Char) : Prop :=
  ∀ character ∈ Text.trim characters, Text.isBlank character = false

instance (characters : List Char) : Decidable (IsUnbroken characters) :=
  List.decidableBAll _ (Text.trim characters)

/-- The last character other than a blank makes an equals sign behind it a comparison. -/
def EndsInComparison (characters : List Char) : Prop :=
  ∃ mark ∈ (characters.filter (!Text.isBlank ·)).getLast?, mark ∈ ['<', '>', '!']

instance (characters : List Char) : Decidable (EndsInComparison characters) :=
  Option.decidableExistsMem _

/-- A dotted reference: two unbroken identifiers outside of double quotes with the only dot. -/
inductive IsReference (side : List Char) : Prop where
  | dotted {table column}
      (split : outsideQuotes false side = table ++ '.' :: column)
      (single : '.' ∉ table ∧ '.' ∉ column)
      (unbroken : IsUnbroken table ∧ IsUnbroken column)

/-- An equality of exactly two dotted references. -/
inductive IsEquality (text : String) : Prop where
  | equality {left right}
      (split : text.toList = left ++ '=' :: right)
      (single : '=' ∉ left ∧ '=' ∉ right)
      (equates : ¬EndsInComparison left)
      (references : IsReference left ∧ IsReference right)

theorem isEquality_iff_of_split
    {text : String}
    {left right : List Char}
    (split : text.toList = left ++ '=' :: right)
    (single : '=' ∉ left ∧ '=' ∉ right) :
    IsEquality text ↔ ¬EndsInComparison left ∧ IsReference left ∧ IsReference right := by
  constructor
  · rintro ⟨otherSplit, otherSingle, equates, references⟩
    obtain ⟨rfl, rfl⟩ :=
      Text.append_mark_inj (split.symm.trans otherSplit) single.1 otherSingle.1
    exact ⟨equates, references⟩
  · rintro ⟨equates, references⟩
    exact .equality split single equates references

/-- What is read before a dot says nothing about the mark before the equals sign. -/
theorem endsInComparison_append_iff
    (table column : List Char) :
    EndsInComparison (table ++ '.' :: column) ↔ EndsInComparison column := by
  have dot : Text.isBlank '.' = false := rfl
  unfold EndsInComparison
  rw [List.filter_append, List.filter_cons_of_pos (by simp [dot]), List.getLast?_append,
    List.getLast?_cons]
  cases (column.filter (!Text.isBlank ·)).getLast? <;> simp

theorem isReference_append_iff
    {table : List Char}
    (undotted : '.' ∉ table)
    (paired : Even (table.count '"'))
    (column : List Char) :
    IsReference (table ++ '.' :: column) ↔
      '.' ∉ outsideQuotes false column ∧ IsUnbroken (outsideQuotes false table) ∧
        IsUnbroken (outsideQuotes false column) := by
  have whole : outsideQuotes false (table ++ '.' :: column) =
      outsideQuotes false table ++ '.' :: outsideQuotes false column :=
    outsideQuotes_append (by simpa using paired) ('.' :: column)
  have outside : '.' ∉ outsideQuotes false table :=
    mt (outsideQuotes_sublist false table).mem undotted
  constructor
  · rintro ⟨split, single, unbroken⟩
    obtain ⟨rfl, rfl⟩ := Text.append_mark_inj (whole.symm.trans split) outside single.1
    exact ⟨single.2, unbroken⟩
  · rintro ⟨single, unbroken⟩
    exact .dotted whole ⟨outside, single⟩ unbroken

theorem IsReference.count_eq_one
    {side : List Char}
    (reference : IsReference side) :
    (outsideQuotes false side).count '.' = 1 := by
  obtain ⟨split, single, _⟩ := reference
  rw [split, List.count_append, List.count_cons_self, List.count_eq_zero.mpr single.1,
    List.count_eq_zero.mpr single.2]

/-! ## The parts of a condition -/

/-- The texts of the four names in a condition. -/
structure ConditionParts where
  table : Side → List Char
  column : Side → List Char

namespace ConditionParts

def reference (parts : ConditionParts) (side : Side) : List Char :=
  parts.table side ++ '.' :: parts.column side

/-- A text is divided at its only equals sign and at the first dots on either side of it. -/
structure Divide (parts : ConditionParts) (text : String) : Prop where
  text : text.toList = parts.reference .left ++ '=' :: parts.reference .right
  single : ∀ side, '=' ∉ parts.reference side
  first : ∀ side, '.' ∉ parts.table side

/-- Nothing slips into the names: no comparison, no further dot and no further words. -/
structure Equate (parts : ConditionParts) : Prop where
  equates : ¬EndsInComparison (parts.column .left)
  undotted : ∀ side, '.' ∉ outsideQuotes false (parts.column side)
  unbroken : ∀ side, IsUnbroken (outsideQuotes false (parts.table side)) ∧
    IsUnbroken (outsideQuotes false (parts.column side))

variable {parts : ConditionParts} {text : String}

theorem Divide.isEquality_iff
    (divide : parts.Divide text)
    (paired : ∀ side, Even ((parts.table side).count '"')) :
    IsEquality text ↔ parts.Equate := by
  have isReference_iff (side : Side) :=
    isReference_append_iff (divide.first side) (paired side) (parts.column side)
  rw [isEquality_iff_of_split divide.text ⟨divide.single .left, divide.single .right⟩, reference,
    reference, endsInComparison_append_iff, isReference_iff, isReference_iff]
  constructor
  · rintro ⟨equates, ⟨leftUndotted, leftUnbroken⟩, rightUndotted, rightUnbroken⟩
    exact ⟨equates, Side.rec leftUndotted rightUndotted, Side.rec leftUnbroken rightUnbroken⟩
  · rintro ⟨equates, undotted, unbroken⟩
    exact ⟨equates, ⟨undotted .left, unbroken .left⟩, undotted .right, unbroken .right⟩

end ConditionParts

/-- A text that writes a condition has parts that write the names in it. -/
theorem Condition.Writes.exists_parts
    {condition : Condition}
    {text : String}
    (writes : condition.Writes text) :
    ∃ parts : ConditionParts, parts.Divide text ∧ ∀ side,
      WritesName (condition.reference side).table (parts.table side) ∧
        WritesName (condition.reference side).column (parts.column side) := by
  obtain ⟨split, writesLeft, writesRight, leftNames, rightNames⟩ := writes
  have leftSingle := (Condition.not_mem_side_iff writesLeft).mpr leftNames
  have rightSingle := (Condition.not_mem_side_iff writesRight).mpr rightNames
  obtain @⟨leftTable, leftColumn, writesLeftTable, writesLeftColumn, leftUndotted, _⟩ := writesLeft
  obtain @⟨rightTable, rightColumn, writesRightTable, writesRightColumn, rightUndotted, _⟩ :=
    writesRight
  have first {name part} (writes : WritesName name part) (undotted : '.' ∉ name.toList) :
      '.' ∉ part :=
    mt (writes.mem_iff rfl (by decide)).mp undotted
  let parts : ConditionParts := ⟨Side.rec leftTable rightTable, Side.rec leftColumn rightColumn⟩
  refine ⟨parts, ⟨split, ?_, ?_⟩, ?_⟩
  · exact Side.rec leftSingle rightSingle
  · exact Side.rec (first writesLeftTable leftUndotted) (first writesRightTable rightUndotted)
  · exact Side.rec ⟨writesLeftTable, writesLeftColumn⟩ ⟨writesRightTable, writesRightColumn⟩

/-- Writing a name adds double quotes in pairs. -/
theorem WritesName.even_count_iff
    {name : String}
    {part : List Char}
    (writes : WritesName name part) :
    Even (part.count '"') ↔ Even (name.toList.count '"') := by
  rcases writes with ⟨_, _, padded⟩ | ⟨padded⟩
  · rw [padded.count_eq rfl]
  · rw [padded.count_eq rfl]
    simp [Nat.even_add_one, List.count_append]

/-! ## Resolved relationships -/

section Resolved

variable {models : List Model} {table : String} {relationship : Relationship} {side : Side}

theorem Contributes.exists_key
    {added : Option ForeignKey}
    (contributes : Contributes models table relationship added)
    (concerns : relationship.Concerns table side) :
    ∃ key, added = some key ∧ relationship.Gives models side key := by
  cases contributes with
  | nothing irrelevant => exact (irrelevant side concerns).elim
  | key otherConcerns gives =>
    rw [← Relationship.keySide?_eq_some_iff] at concerns otherConcerns
    obtain rfl := Option.some.inj (concerns.symm.trans otherConcerns)
    exact ⟨_, rfl, gives⟩

/-- A key is on the column that the condition names on its side. -/
theorem Relationship.Gives.exists_joins
    {key : ForeignKey}
    (gives : relationship.Gives models side key) :
    ∃ condition, relationship.Joins condition ∧
      key.column = (condition.reference side).column := by
  obtain ⟨joins, _, _, _⟩ := gives
  exact ⟨_, joins, rfl⟩

variable {relationships : List Relationship} {keys : List ForeignKey}

/-- Every relevant relationship in a resolved list gives a key of the table. -/
theorem exists_key_of_foreignKeys
    (resolved : foreignKeys models table relationships = .ok keys)
    (listed : relationship ∈ relationships)
    (concerns : relationship.Concerns table side) :
    ∃ key ∈ keys, relationship.Gives models side key := by
  obtain ⟨added, each, rfl⟩ := foreignKeys_eq_ok_iff.mp resolved
  obtain ⟨sameLength, each⟩ := List.forall₂_iff_get.mp each
  obtain ⟨position, within, rfl⟩ := List.getElem_of_mem listed
  obtain ⟨key, there, gives⟩ := (each position within (sameLength ▸ within)).exists_key concerns
  exact ⟨key, List.reduceOption_mem_iff.mpr (there ▸ List.getElem_mem _), gives⟩

/--
A relationship that gives a table a key has a condition that divides into four names, and the key is
on the column of the table's own side, whatever stands in it.  Unless a double quote is left open in
the name of a model, the condition is an equality of exactly two dotted references if and only if
nothing slips into the names.
-/
theorem isEquality_iff_of_foreignKeys
    (resolved : foreignKeys models table relationships = .ok keys)
    (listed : relationship ∈ relationships)
    (concerns : relationship.Concerns table side)
    (paired : ∀ each, Even ((relationship.model each).toList.count '"')) :
    ∃ parts : ConditionParts, parts.Divide relationship.condition ∧
      (∀ each, WritesName (relationship.model each) (parts.table each)) ∧
      (∃ key ∈ keys, relationship.Gives models side key ∧
        WritesName key.column (parts.column side)) ∧
      (IsEquality relationship.condition ↔ parts.Equate) := by
  obtain ⟨key, inside, gives⟩ := exists_key_of_foreignKeys resolved listed concerns
  obtain ⟨condition, joins, column⟩ := gives.exists_joins
  obtain ⟨parts, divide, writes⟩ :=
    (Condition.read?_eq_some_iff.mp joins.read).exists_parts
  have writesTable (each : Side) : WritesName (relationship.model each) (parts.table each) := by
    cases each with
    | left =>
      rw [Relationship.model, ← joins.left]
      exact (writes .left).1
    | right =>
      rw [Relationship.model, ← joins.right]
      exact (writes .right).1
  refine ⟨parts, divide, writesTable, ⟨key, inside, gives, column ▸ (writes side).2⟩, ?_⟩
  -- Quotes in pairs leave the dot that is read outside of every quoted part.
  exact divide.isEquality_iff fun each => (writesTable each).even_count_iff.mpr (paired each)

end Resolved

/-- Orders refer to shops, which have a primary key. -/
def shopOrders (condition : String) : Relationship :=
  ⟨"", "orders", "shops", .manyToOne, condition, []⟩

def shopModels : List Model :=
  [⟨"orders", none, [], none, []⟩, ⟨"shops", none, [], some "id", []⟩]

theorem isEquality_iff_of_foreignKeys_quoted :
    foreignKeys shopModels "orders" [shopOrders "orders.\"a. b\" = shops.id"] =
        .ok [⟨"a. b", "shops", "id"⟩] ∧
      (∃ parts : ConditionParts, parts.Divide "orders.\"a. b\" = shops.id" ∧
        (IsEquality "orders.\"a. b\" = shops.id" ↔ parts.Equate)) ∧
      IsEquality "orders.\"a. b\" = shops.id" := by
  have resolved : foreignKeys shopModels "orders" [shopOrders "orders.\"a. b\" = shops.id"] =
      .ok [⟨"a. b", "shops", "id"⟩] := rfl
  obtain ⟨parts, divide, _, _, equality⟩ :=
    isEquality_iff_of_foreignKeys resolved (List.mem_singleton_self _) (.manyToOne rfl rfl)
      (Side.rec (by decide) (by decide))
  have split : "orders.\"a. b\" = shops.id".toList =
      "orders.\"a. b\" ".toList ++ '=' :: " shops.id".toList := rfl
  have left : outsideQuotes false "orders.\"a. b\" ".toList =
      "orders".toList ++ '.' :: "\"\" ".toList := rfl
  have right : outsideQuotes false " shops.id".toList = " shops".toList ++ '.' :: "id".toList :=
    rfl
  have references := And.intro
    (IsReference.dotted left (by decide) (by decide))
    (IsReference.dotted right (by decide) (by decide))
  exact ⟨resolved, ⟨parts, divide, equality⟩,
    .equality split (by decide) (by decide) references⟩

/-- A comparison, a condition with a further clause and a reference of three parts give keys. -/
theorem foreignKeys_accept_inequalities :
    foreignKeys shopModels "orders"
        [shopOrders "orders.x <= shops.id", shopOrders "orders.x = shops.id AND shops.y > 0",
          shopOrders "orders.x = shops.y.id"] =
      .ok [⟨"x <", "shops", "id"⟩, ⟨"x", "shops", "id"⟩, ⟨"x", "shops", "id"⟩] ∧
      ¬IsEquality "orders.x <= shops.id" ∧
      ¬IsEquality "orders.x = shops.id AND shops.y > 0" ∧
      ¬IsEquality "orders.x = shops.y.id" := by
  have comparison : "orders.x <= shops.id".toList =
      "orders.x <".toList ++ '=' :: " shops.id".toList := rfl
  have clause : "orders.x = shops.id AND shops.y > 0".toList =
      "orders.x ".toList ++ '=' :: " shops.id AND shops.y > 0".toList := rfl
  have threeParts : "orders.x = shops.y.id".toList =
      "orders.x ".toList ++ '=' :: " shops.y.id".toList := rfl
  refine ⟨rfl, ?_, ?_, ?_⟩
  · rw [isEquality_iff_of_split comparison (by decide)]
    rintro ⟨equates, _⟩
    exact equates ⟨'<', rfl, by decide⟩
  · rw [isEquality_iff_of_split clause (by decide)]
    rintro ⟨_, _, reference⟩
    exact absurd reference.count_eq_one (by decide)
  · rw [isEquality_iff_of_split threeParts (by decide)]
    rintro ⟨_, _, reference⟩
    exact absurd reference.count_eq_one (by decide)

end SemanticIndex
