import Mathlib.Data.List.ReduceOption
import SemanticIndex.ForeignKey.Resolution
import SemanticIndex.Proofs.Collecting

/-!
# The reference for foreign keys

What a relationship gives a table is stated here without an order of evaluation: on which side it
concerns the table, what key it gives there, and what is wrong with it when it gives none.  The
failures exclude one another, so a relationship has at most one of them.

The main theorem says that the foreign keys of a table are collected relationship by relationship
and that the first bad one decides alone when there is one.
-/

namespace SemanticIndex

/-- A model is the last one of its name. -/
def LastNamed (models : List Model) (name : String) (model : Model) : Prop :=
  ∃ before after, models = before ++ model :: after ∧ model.name = name ∧
    ∀ later ∈ after, later.name ≠ name

theorem lastNamed?_eq_some_iff
    {models : List Model}
    {name : String}
    {model : Model} :
    lastNamed? models name = some model ↔ LastNamed models name model := by
  rw [lastNamed?, List.find?_eq_some_iff_append]
  constructor
  · rintro ⟨named, after, before, split, others⟩
    refine ⟨before.reverse, after.reverse, ?_, by simpa using named, ?_⟩
    · rw [← List.reverse_reverse models, split]
      simp
    · intro later inside
      simpa using others later (List.mem_reverse.mp inside)
  · rintro ⟨before, after, rfl, named, others⟩
    refine ⟨by simpa using named, after.reverse, before.reverse, by simp, ?_⟩
    intro later inside
    simpa using others later (List.mem_reverse.mp inside)

theorem lastNamed?_eq_none_iff
    {models : List Model}
    {name : String} :
    lastNamed? models name = none ↔ ∀ model ∈ models, model.name ≠ name := by
  simp [lastNamed?]

theorem Model.key?_eq_some_iff
    {model : Model}
    {key : String} :
    model.key? = some key ↔ model.primaryKey = some key ∧ key ≠ "" := by
  simp [Model.key?, Option.filter_eq_some_iff]

theorem Model.key?_eq_none_iff {model : Model} :
    model.key? = none ↔ ∀ key, model.primaryKey = some key → key = "" := by
  simp [Model.key?, Option.filter_eq_none_iff]

/-! ## One relationship -/

/-- The position of a side in the pair of models. -/
def Side.position : Side → Nat
  | .left => 0
  | .right => 1

namespace Relationship

/-- The side on which a relevant relationship has a table. -/
inductive Concerns (relationship : Relationship) (table : String) : Side → Prop where
  | manyToOne
      (type : relationship.joinType = .manyToOne)
      (named : relationship.first = table) :
      Concerns relationship table .left
  | oneToMany
      (type : relationship.joinType = .oneToMany)
      (named : relationship.second = table) :
      Concerns relationship table .right
  | oneToOne
      {side : Side}
      (type : relationship.joinType = .oneToOne)
      (occurs : [relationship.first, relationship.second].idxOf? table = some side.position) :
      Concerns relationship table side

theorem keySide?_eq_some_iff
    {relationship : Relationship}
    {table : String}
    {side : Side} :
    relationship.keySide? table = some side ↔ relationship.Concerns table side := by
  constructor
  · intro found
    unfold keySide? at found
    split at found
    · rename_i type
      split at found
      · cases found
        exact .manyToOne type ‹_›
      · exact nomatch found
    · rename_i type
      split at found
      · cases found
        exact .oneToMany type ‹_›
      · exact nomatch found
    · rename_i type
      apply Concerns.oneToOne type
      split at found
      · cases found
        simp [List.idxOf?_cons, Side.position, *]
      · split at found
        · cases found
          simp [List.idxOf?_cons, Side.position, *]
        · exact nomatch found
    · exact nomatch found
  · intro concerns
    cases concerns with
    | manyToOne type named => simp [keySide?, type, named]
    | oneToMany type named => simp [keySide?, type, named]
    | oneToOne type occurs =>
      cases side with
      | left => simp_all [keySide?, List.idxOf?_cons, Side.position]
      | right =>
        by_cases named : relationship.first = table
        · simp [List.idxOf?_cons, Side.position, named] at occurs
        · simp_all [keySide?, List.idxOf?_cons, Side.position]

/-- The condition is well formed and names the models of the relationship in their order. -/
structure Joins (relationship : Relationship) (condition : Condition) : Prop where
  read : Condition.read? relationship.condition = some condition
  left : condition.left.table = relationship.first
  right : condition.right.table = relationship.second

variable (models : List Model)

/-- The key that a good relationship gives on a side, which refers to the other model. -/
inductive Gives (relationship : Relationship) (side : Side) : ForeignKey → Prop where
  | key
      {condition : Condition}
      {model : Model}
      {primaryKey : String}
      (joins : relationship.Joins condition)
      (last : LastNamed models (relationship.model side.opposite) model)
      (declared : model.primaryKey = some primaryKey)
      (nonempty : primaryKey ≠ "") :
      Gives relationship side
        ⟨(condition.reference side).column, relationship.model side.opposite, primaryKey⟩

/-- What is wrong with a bad relationship; the condition counts before the model referred to. -/
inductive Fails (relationship : Relationship) (side : Side) : ResolutionFailure → Prop where
  | malformed
      (unread : Condition.read? relationship.condition = none) :
      Fails relationship side (.malformedCondition relationship.condition)
  | mismatched
      {condition : Condition}
      (read : Condition.read? relationship.condition = some condition)
      (differs : ¬relationship.Joins condition) :
      Fails relationship side
        (.tableMismatch condition.left.table condition.right.table
          relationship.first relationship.second)
  | unknown
      {condition : Condition}
      (joins : relationship.Joins condition)
      (absent : ∀ model ∈ models, model.name ≠ relationship.model side.opposite) :
      Fails relationship side (.unknownModel (relationship.model side.opposite))
  | keyless
      {condition : Condition}
      {model : Model}
      (joins : relationship.Joins condition)
      (last : LastNamed models (relationship.model side.opposite) model)
      (undeclared : ∀ key, model.primaryKey = some key → key = "") :
      Fails relationship side (.missingPrimaryKey (relationship.model side.opposite))

variable {models}

theorem joins_iff_of_read
    {relationship : Relationship}
    {condition : Condition}
    (read : Condition.read? relationship.condition = some condition) :
    relationship.Joins condition ↔
      ¬(condition.left.table ≠ relationship.first ∨
        condition.right.table ≠ relationship.second) := by
  constructor
  · rintro ⟨_, left, right⟩
    simp [left, right]
  · intro agree
    push Not at agree
    exact ⟨read, agree.1, agree.2⟩

/-- The key of a side is computed as the reference says, failures included. -/
theorem keyOnSide_spec
    (models : List Model)
    (relationship : Relationship)
    (side : Side) :
    (∃ key, keyOnSide models relationship side = .ok key ∧ Gives models relationship side key) ∨
      ∃ reason, keyOnSide models relationship side = .error reason ∧
        Fails models relationship side reason := by
  cases read : Condition.read? relationship.condition with
  | none => exact .inr ⟨_, by simp [keyOnSide, read], .malformed read⟩
  | some condition =>
    by_cases joins : relationship.Joins condition
    · cases found : lastNamed? models (relationship.model side.opposite) with
      | none =>
        refine .inr ⟨_, ?_, .unknown joins (lastNamed?_eq_none_iff.mp found)⟩
        simp [keyOnSide, read, joins.left, joins.right, found]
      | some model =>
        have last := lastNamed?_eq_some_iff.mp found
        cases keyed : model.key? with
        | none =>
          refine .inr ⟨_, ?_, .keyless joins last (Model.key?_eq_none_iff.mp keyed)⟩
          simp [keyOnSide, read, joins.left, joins.right, found, keyed]
        | some primaryKey =>
          have declared := Model.key?_eq_some_iff.mp keyed
          refine .inl ⟨_, ?_, .key joins last declared.1 declared.2⟩
          simp [keyOnSide, read, joins.left, joins.right, found, keyed]
    · refine .inr ⟨_, ?_, .mismatched read joins⟩
      rw [joins_iff_of_read read, not_not] at joins
      simp [keyOnSide, read, joins]

theorem keyOnSide_eq_ok_iff
    {relationship : Relationship}
    {side : Side}
    {key : ForeignKey} :
    keyOnSide models relationship side = .ok key ↔ Gives models relationship side key := by
  constructor
  · intro computed
    rcases keyOnSide_spec models relationship side with
      ⟨found, same, gives⟩ | ⟨reason, same, _⟩
    · obtain rfl := Except.ok.inj (computed.symm.trans same)
      exact gives
    · exact nomatch computed.symm.trans same
  · rintro @⟨condition, model, primaryKey, joins, last, declared, nonempty⟩
    have keyed := Model.key?_eq_some_iff.mpr ⟨declared, nonempty⟩
    simp [keyOnSide, joins.read, joins.left, joins.right, lastNamed?_eq_some_iff.mpr last, keyed]

theorem keyOnSide_eq_error_iff
    {relationship : Relationship}
    {side : Side}
    {reason : ResolutionFailure} :
    keyOnSide models relationship side = .error reason ↔
      Fails models relationship side reason := by
  constructor
  · intro computed
    rcases keyOnSide_spec models relationship side with
      ⟨key, same, _⟩ | ⟨found, same, fails⟩
    · exact nomatch computed.symm.trans same
    · obtain rfl := Except.error.inj (computed.symm.trans same)
      exact fails
  · intro fails
    cases fails with
    | malformed unread => simp [keyOnSide, unread]
    | mismatched read differs =>
      rw [joins_iff_of_read read, not_not] at differs
      simp [keyOnSide, read, differs]
    | unknown joins absent =>
      simp [keyOnSide, joins.read, joins.left, joins.right, lastNamed?_eq_none_iff.mpr absent]
    | keyless joins last undeclared =>
      simp [keyOnSide, joins.read, joins.left, joins.right, lastNamed?_eq_some_iff.mpr last,
        Model.key?_eq_none_iff.mpr undeclared]

end Relationship

/-! ## All relationships -/

section Walk

variable (models : List Model) (table : String)

/-- What one relationship adds to the keys of a table. -/
inductive Contributes : Relationship → Option ForeignKey → Prop where
  | nothing
      {relationship : Relationship}
      (irrelevant : ∀ side, ¬relationship.Concerns table side) :
      Contributes relationship none
  | key
      {relationship : Relationship}
      {side : Side}
      {key : ForeignKey}
      (concerns : relationship.Concerns table side)
      (gives : relationship.Gives models side key) :
      Contributes relationship (some key)

/-- A relationship is relevant to a table and has something wrong with it. -/
def Bad (relationship : Relationship) (reason : ResolutionFailure) : Prop :=
  ∃ side, relationship.Concerns table side ∧ relationship.Fails models side reason

/-- Compute what one relationship adds to the keys of a table. -/
def contribution (relationship : Relationship) : Except Error (Option ForeignKey) :=
  match relationship.keySide? table with
  | none => .ok none
  | some side =>
    match keyOnSide models relationship side with
    | .error reason => .error (.resolution table relationship.label reason)
    | .ok key => .ok (some key)

variable {models table}

/-- The three things that one relationship can come to. -/
theorem contribution_spec
    (models : List Model)
    (table : String)
    (relationship : Relationship) :
    (∃ added, contribution models table relationship = .ok added ∧
        Contributes models table relationship added) ∨
      ∃ reason, contribution models table relationship =
          .error (.resolution table relationship.label reason) ∧
        Bad models table relationship reason := by
  cases sided : relationship.keySide? table with
  | none =>
    refine .inl ⟨none, by simp [contribution, sided], .nothing ?_⟩
    intro side concerns
    rw [← Relationship.keySide?_eq_some_iff, sided] at concerns
    exact nomatch concerns
  | some side =>
    have concerns := Relationship.keySide?_eq_some_iff.mp sided
    rcases Relationship.keyOnSide_spec models relationship side with
      ⟨key, computed, gives⟩ | ⟨reason, computed, fails⟩
    · exact .inl ⟨some key, by simp [contribution, sided, computed], .key concerns gives⟩
    · exact .inr ⟨reason, by simp [contribution, sided, computed], side, concerns, fails⟩

theorem contribution_eq_ok_iff
    {relationship : Relationship}
    {added : Option ForeignKey} :
    contribution models table relationship = .ok added ↔
      Contributes models table relationship added := by
  constructor
  · intro computed
    rcases contribution_spec models table relationship with
      ⟨found, same, contributes⟩ | ⟨reason, same, _⟩
    · obtain rfl := Except.ok.inj (computed.symm.trans same)
      exact contributes
    · exact nomatch computed.symm.trans same
  · intro contributes
    cases contributes with
    | nothing irrelevant =>
      have sided : relationship.keySide? table = none := by
        rw [Option.eq_none_iff_forall_ne_some]
        intro side found
        exact irrelevant side (Relationship.keySide?_eq_some_iff.mp found)
      simp [contribution, sided]
    | key concerns gives =>
      simp [contribution, Relationship.keySide?_eq_some_iff.mpr concerns,
        Relationship.keyOnSide_eq_ok_iff.mpr gives]

theorem contribution_eq_error_iff
    {relationship : Relationship}
    {error : Error} :
    contribution models table relationship = .error error ↔
      ∃ reason, Bad models table relationship reason ∧
        error = .resolution table relationship.label reason := by
  constructor
  · intro computed
    rcases contribution_spec models table relationship with
      ⟨found, same, _⟩ | ⟨reason, same, bad⟩
    · exact nomatch computed.symm.trans same
    · exact ⟨reason, bad, Except.error.inj (computed.symm.trans same)⟩
  · rintro ⟨reason, ⟨side, concerns, fails⟩, rfl⟩
    simp [contribution, Relationship.keySide?_eq_some_iff.mpr concerns,
      Relationship.keyOnSide_eq_error_iff.mpr fails]

theorem foreignKeys_eq_map_mapM (relationships : List Relationship) :
    foreignKeys models table relationships =
      (relationships.mapM (contribution models table)).map List.reduceOption := by
  induction relationships with
  | nil => rfl
  | cons relationship rest induction =>
    rw [List.mapM_cons, foreignKeys, induction, contribution]
    cases relationship.keySide? table with
    | none => cases rest.mapM (contribution models table) <;> rfl
    | some side =>
      cases computed : keyOnSide models relationship side with
      | error reason => simp [computed, bind, Except.bind, Except.map]
      | ok key =>
        simp only [computed]
        cases rest.mapM (contribution models table) <;> rfl

/-- A relationship adds nothing or a key exactly when there is nothing wrong with it. -/
theorem exists_contribution_eq_ok_iff {relationship : Relationship} :
    (∃ added, contribution models table relationship = .ok added) ↔
      ∀ reason, ¬Bad models table relationship reason := by
  constructor
  · rintro ⟨added, computed⟩ reason bad
    have failed := contribution_eq_error_iff.mpr ⟨reason, bad, rfl⟩
    exact nomatch computed.symm.trans failed
  · intro good
    rcases contribution_spec models table relationship with
      ⟨added, computed, _⟩ | ⟨reason, _, bad⟩
    · exact ⟨added, computed⟩
    · exact (good reason bad).elim

theorem foreignKeys_eq_ok_iff
    {relationships : List Relationship}
    {keys : List ForeignKey} :
    foreignKeys models table relationships = .ok keys ↔
      ∃ added, List.Forall₂ (Contributes models table) relationships added ∧
        keys = added.reduceOption := by
  rw [foreignKeys_eq_map_mapM, map_eq_ok_iff]
  simp only [mapM_eq_ok_iff_forall₂, contribution_eq_ok_iff]

theorem foreignKeys_eq_error_iff
    {relationships : List Relationship}
    {error : Error} :
    foreignKeys models table relationships = .error error ↔
      ∃ before bad after reason, relationships = before ++ bad :: after ∧
        (∀ earlier ∈ before, ∀ reason, ¬Bad models table earlier reason) ∧
        Bad models table bad reason ∧ error = .resolution table bad.label reason := by
  rw [foreignKeys_eq_map_mapM, map_eq_error_iff, mapM_eq_error_iff]
  simp only [contribution_eq_error_iff, exists_contribution_eq_ok_iff]
  constructor
  · rintro ⟨before, bad, after, split, good, reason, failed⟩
    exact ⟨before, bad, after, reason, split, good, failed⟩
  · rintro ⟨before, bad, after, reason, split, good, failed⟩
    exact ⟨before, bad, after, split, good, reason, failed⟩

theorem exists_foreignKeys_eq_error_iff {relationships : List Relationship} :
    (∃ error, foreignKeys models table relationships = .error error) ↔
      ∃ relationship ∈ relationships, ∃ reason, Bad models table relationship reason := by
  constructor
  · rintro ⟨error, failed⟩
    rcases foreignKeys_eq_error_iff.mp failed with
      ⟨before, bad, after, reason, rfl, _, wrong, _⟩
    exact ⟨bad, by simp, reason, wrong⟩
  · rintro ⟨relationship, inside, reason, bad⟩
    cases computed : foreignKeys models table relationships with
    | error error => exact ⟨error, rfl⟩
    | ok keys =>
      rw [foreignKeys_eq_map_mapM, map_eq_ok_iff] at computed
      rcases computed with ⟨added, collected, _⟩
      have each := mapM_eq_ok_iff_forall₂.mp collected
      rcases List.forall₂_iff_get.mp each with ⟨sameLength, each⟩
      rcases List.getElem_of_mem inside with ⟨position, within, rfl⟩
      have good := exists_contribution_eq_ok_iff.mp
        ⟨_, each position within (sameLength ▸ within)⟩
      exact (good reason bad).elim

end Walk

/-! ## The main theorem -/

/--
The foreign keys of a table are those that its relevant relationships give, in their order.  There
are none exactly when one of these is bad, and the error is then that of the first bad one.
-/
theorem foreignKeys_reference
    (models : List Model)
    (table : String)
    (relationships : List Relationship) :
    (∀ keys, foreignKeys models table relationships = .ok keys ↔
      ∃ added, List.Forall₂ (Contributes models table) relationships added ∧
        keys = added.reduceOption) ∧
    (∀ error, foreignKeys models table relationships = .error error ↔
      ∃ before bad after reason, relationships = before ++ bad :: after ∧
        (∀ earlier ∈ before, ∀ reason, ¬Bad models table earlier reason) ∧
        Bad models table bad reason ∧ error = .resolution table bad.label reason) ∧
    ((∃ error, foreignKeys models table relationships = .error error) ↔
      ∃ relationship ∈ relationships, ∃ reason, Bad models table relationship reason) :=
  ⟨fun _ => foreignKeys_eq_ok_iff, fun _ => foreignKeys_eq_error_iff,
    exists_foreignKeys_eq_error_iff⟩

end SemanticIndex
