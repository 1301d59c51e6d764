import SemanticIndex.Proofs.ForeignKey.Reference

/-!
# What foreign keys depend on

The foreign keys of a table depend on the relationships that concern the table and, of the models,
on their names and primary keys only.  No table is concerned by a relationship of an unknown join
type, and none of the others is asked for more than its interpreted fields.
-/

namespace SemanticIndex

variable {models : List Model} {table : String}

/-- A relationship behind others counts when these have nothing wrong with them. -/
theorem foreignKeys_append
    (before after : List Relationship) :
    foreignKeys models table (before ++ after) =
      (foreignKeys models table before).bind fun keys =>
        (foreignKeys models table after).map (keys ++ ·) := by
  induction before with
  | nil =>
    show foreignKeys models table after = (foreignKeys models table after).map ([] ++ ·)
    cases foreignKeys models table after <;> rfl
  | cons first rest induction =>
    rw [List.cons_append, foreignKeys, foreignKeys]
    split
    · exact induction
    · split
      · rfl
      · rw [induction]
        cases foreignKeys models table rest with
        | error error => rfl
        | ok keys => cases foreignKeys models table after <;> rfl

theorem foreignKeys_cons
    (relationship : Relationship)
    (rest : List Relationship) :
    foreignKeys models table (relationship :: rest) =
      (contribution models table relationship).bind fun added =>
        (foreignKeys models table rest).map (added.toList ++ ·) := by
  rw [foreignKeys, contribution]
  cases relationship.keySide? table with
  | none => cases foreignKeys models table rest <;> rfl
  | some side =>
    cases computed : keyOnSide models relationship side with
    | error reason => simp [computed, Except.bind]
    | ok key =>
      simp only [computed]
      cases foreignKeys models table rest <;> rfl

/-- A relationship that gives a table no key can be left out. -/
theorem foreignKeys_of_keySide?_eq_none
    {relationship : Relationship}
    (irrelevant : relationship.keySide? table = none)
    (before after : List Relationship) :
    foreignKeys models table (before ++ relationship :: after) =
      foreignKeys models table (before ++ after) := by
  induction before with
  | nil => simp only [List.nil_append, foreignKeys, irrelevant]
  | cons first rest induction => simp only [List.cons_append, foreignKeys, induction]

/-! ## Relationships -/

def JoinType.isKnown : JoinType → Bool
  | .other _ => false
  | _ => true

/-- A relationship without the fields that are not interpreted. -/
def Relationship.bare (relationship : Relationship) : Relationship :=
  { relationship with extra := [] }

/-- The relationships that can give a key, without the fields that are not interpreted. -/
def joins (relationships : List Relationship) : List Relationship :=
  (relationships.filter (·.joinType.isKnown)).map Relationship.bare

theorem Relationship.keySide?_of_not_isKnown
    {relationship : Relationship}
    (unknown : relationship.joinType.isKnown = false)
    (table : String) :
    relationship.keySide? table = none := by
  unfold keySide?
  cases type : relationship.joinType with
  | other tag => rfl
  | _ => simp [type, JoinType.isKnown] at unknown

/-- Joins are all that foreign keys depend on among the relationships. -/
theorem foreignKeys_joins
    (models : List Model)
    (table : String)
    (relationships : List Relationship) :
    foreignKeys models table (joins relationships) = foreignKeys models table relationships := by
  unfold joins
  induction relationships with
  | nil => rfl
  | cons relationship rest induction =>
    cases known : relationship.joinType.isKnown with
    | false =>
      have irrelevant := Relationship.keySide?_of_not_isKnown known table
      rw [List.filter_cons_of_neg (by simp [known]), induction]
      simp only [foreignKeys, irrelevant]
    | true =>
      rw [List.filter_cons_of_pos (by exact known), List.map_cons]
      simp only [foreignKeys, induction]
      rfl

/-! ## Models -/

/-- What a relationship can learn of a model that it refers to. -/
def Model.nameAndKey (model : Model) : String × Option String :=
  (model.name, model.key?)

theorem map_key?_lastNamed? (models : List Model) (name : String) :
    (lastNamed? models name).map Model.key? =
      ((models.map Model.nameAndKey).reverse.find? (·.1 = name)).map Prod.snd := by
  rw [← List.map_reverse, List.find?_map, Option.map_map]
  rfl

theorem keyOnSide_congr
    {one other : List Model}
    (same : one.map Model.nameAndKey = other.map Model.nameAndKey)
    (relationship : Relationship)
    (side : Side) :
    keyOnSide one relationship side = keyOnSide other relationship side := by
  have sameKey : (lastNamed? one (relationship.model side.opposite)).map Model.key? =
      (lastNamed? other (relationship.model side.opposite)).map Model.key? := by
    rw [map_key?_lastNamed?, map_key?_lastNamed?, same]
  unfold keyOnSide
  cases found : lastNamed? one (relationship.model side.opposite) with
  | none =>
    rw [found, Option.map_none, eq_comm, Option.map_eq_none_iff] at sameKey
    simp only [found, sameKey]
  | some model =>
    rw [found, Option.map_some, eq_comm, Option.map_eq_some_iff] at sameKey
    obtain ⟨otherModel, otherFound, keys⟩ := sameKey
    simp only [found, otherFound, keys]

/-- Models with the same names and primary keys give the same foreign keys. -/
theorem foreignKeys_congr
    {one other : List Model}
    (same : one.map Model.nameAndKey = other.map Model.nameAndKey)
    (table : String)
    (relationships : List Relationship) :
    foreignKeys one table relationships = foreignKeys other table relationships := by
  induction relationships with
  | nil => rfl
  | cons relationship rest induction =>
    simp only [foreignKeys, keyOnSide_congr same, induction]

end SemanticIndex
