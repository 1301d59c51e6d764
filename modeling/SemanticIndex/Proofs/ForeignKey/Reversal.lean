import SemanticIndex.Proofs.ForeignKey.Conditions

/-!
# Relationships told from the other side

A relationship can be told from its second model: the models change places, so do the sides of the
condition, and a relationship from many to one becomes one from one to many.  It concerns the same
tables then, and gives them the same keys.  When something is wrong with it, the same is wrong with
it from the other side.

A one-to-one relationship of a model with itself is left out, as its key is on the first side.
-/

namespace SemanticIndex

/-! ## Reversals -/

/-- The join type told from the second model. -/
def JoinType.reversed : JoinType → JoinType
  | .manyToOne => .oneToMany
  | .oneToMany => .manyToOne
  | .oneToOne => .oneToOne
  | .other tag => .other tag

theorem JoinType.reversed_reversed
    (joinType : JoinType) :
    joinType.reversed.reversed = joinType := by
  cases joinType <;> rfl

/-- A relationship tells from its second model what another one tells from its first. -/
structure Relationship.Reverses (relationship other : Relationship) : Prop where
  first : other.first = relationship.second
  second : other.second = relationship.first
  joinType : other.joinType = relationship.joinType.reversed
  distinct : relationship.joinType = .oneToOne → relationship.first ≠ relationship.second
  condition : ∃ left right, '=' ∉ left ∧ '=' ∉ right ∧
    relationship.condition.toList = left ++ '=' :: right ∧
    other.condition.toList = right ++ '=' :: left

/-- One failure is found in a relationship and the other one from its other side. -/
inductive ResolutionFailure.Mirrors : ResolutionFailure → ResolutionFailure → Prop where
  | malformedCondition (condition other : String) :
      Mirrors (.malformedCondition condition) (.malformedCondition other)
  | tableMismatch (left right first second : String) :
      Mirrors (.tableMismatch left right first second) (.tableMismatch right left second first)
  | unknownModel (name : String) : Mirrors (.unknownModel name) (.unknownModel name)
  | missingPrimaryKey (name : String) : Mirrors (.missingPrimaryKey name) (.missingPrimaryKey name)

/-! ## One relationship -/

namespace Relationship

variable {models : List Model} {table : String} {relationship other : Relationship} {side : Side}

theorem Reverses.symm (reverses : relationship.Reverses other) : other.Reverses relationship where
  first := reverses.second.symm
  second := reverses.first.symm
  joinType := by rw [reverses.joinType, JoinType.reversed_reversed]
  distinct := by
    intro type
    rw [reverses.first, reverses.second]
    refine (reverses.distinct ?_).symm
    rw [← relationship.joinType.reversed_reversed, ← reverses.joinType, type]
    rfl
  condition := by
    obtain ⟨left, right, leftOutside, rightOutside, split, otherSplit⟩ := reverses.condition
    exact ⟨right, left, rightOutside, leftOutside, otherSplit, split⟩

theorem Reverses.keySide?_eq
    (reverses : relationship.Reverses other)
    (table : String) :
    other.keySide? table = (relationship.keySide? table).map Side.opposite := by
  unfold keySide?
  rw [reverses.joinType, reverses.first, reverses.second]
  cases type : relationship.joinType with
  | manyToOne =>
    by_cases named : relationship.first = table <;>
      simp [JoinType.reversed, named, Side.opposite]
  | oneToMany =>
    by_cases named : relationship.second = table <;>
      simp [JoinType.reversed, named, Side.opposite]
  | oneToOne =>
    have distinct := reverses.distinct type
    by_cases first : relationship.first = table
    · subst first
      simp [JoinType.reversed, distinct.symm, Side.opposite]
    · by_cases second : relationship.second = table <;>
        simp [JoinType.reversed, first, second, Side.opposite]
  | other tag => rfl

theorem Reverses.concerns
    (reverses : relationship.Reverses other)
    (concerns : relationship.Concerns table side) :
    other.Concerns table side.opposite := by
  rw [← keySide?_eq_some_iff, reverses.keySide?_eq, keySide?_eq_some_iff.mpr concerns]
  rfl

theorem Reverses.model_eq
    (reverses : relationship.Reverses other)
    (side : Side) :
    other.model side.opposite = relationship.model side := by
  cases side with
  | left => exact reverses.second
  | right => exact reverses.first

end Relationship

/-- The condition with its sides in the other order. -/
def Condition.reversed (condition : Condition) : Condition :=
  ⟨condition.right, condition.left⟩

theorem Condition.reference_reversed
    (condition : Condition)
    (side : Side) :
    condition.reversed.reference side.opposite = condition.reference side := by
  cases side <;> rfl

namespace Relationship

variable {models : List Model} {table : String} {relationship other : Relationship} {side : Side}

theorem Reverses.read?_eq (reverses : relationship.Reverses other) :
    Condition.read? other.condition =
      (Condition.read? relationship.condition).map Condition.reversed := by
  obtain ⟨left, right, leftOutside, rightOutside, split, otherSplit⟩ := reverses.condition
  rw [Condition.read?_of_split split leftOutside rightOutside,
    Condition.read?_of_split otherSplit rightOutside leftOutside]
  cases ColumnReference.read? left <;> cases ColumnReference.read? right <;> rfl

theorem Reverses.joins
    (reverses : relationship.Reverses other)
    {condition : Condition}
    (joins : relationship.Joins condition) :
    other.Joins condition.reversed where
  read := by
    rw [reverses.read?_eq, joins.read]
    rfl
  left := by
    rw [reverses.first, ← joins.right]
    rfl
  right := by
    rw [reverses.second, ← joins.left]
    rfl

theorem Reverses.gives
    (reverses : relationship.Reverses other)
    {key : ForeignKey}
    (gives : relationship.Gives models side key) :
    other.Gives models side.opposite key := by
  obtain ⟨joins, last, declared, nonempty⟩ := gives
  rw [← reverses.model_eq side.opposite] at last
  have gives : other.Gives models side.opposite _ :=
    .key (reverses.joins joins) last declared nonempty
  rwa [Condition.reference_reversed, reverses.model_eq] at gives

theorem Reverses.fails
    (reverses : relationship.Reverses other)
    {reason : ResolutionFailure}
    (fails : relationship.Fails models side reason) :
    ∃ otherReason, other.Fails models side.opposite otherReason ∧ reason.Mirrors otherReason := by
  cases fails with
  | malformed unread =>
    have otherUnread : Condition.read? other.condition = none := by
      rw [reverses.read?_eq, unread]
      rfl
    exact ⟨_, .malformed otherUnread, .malformedCondition _ _⟩
  | @mismatched condition read differs =>
    have otherRead : Condition.read? other.condition = some condition.reversed := by
      rw [reverses.read?_eq, read]
      rfl
    have otherDiffers : ¬other.Joins condition.reversed :=
      fun joins => differs (reverses.symm.joins joins)
    refine ⟨_, .mismatched otherRead otherDiffers, ?_⟩
    rw [reverses.first, reverses.second]
    exact .tableMismatch _ _ _ _
  | unknown joins absent =>
    rw [← reverses.model_eq side.opposite] at absent ⊢
    exact ⟨_, .unknown (reverses.joins joins) absent, .unknownModel _⟩
  | keyless joins last undeclared =>
    rw [← reverses.model_eq side.opposite] at last ⊢
    exact ⟨_, .keyless (reverses.joins joins) last undeclared, .missingPrimaryKey _⟩

/-- A relationship and its reversal add the same to the keys of a table, or are both bad. -/
theorem Reverses.contribution
    (reverses : relationship.Reverses other)
    (models : List Model)
    (table : String) :
    (∃ added, SemanticIndex.contribution models table relationship = .ok added ∧
        SemanticIndex.contribution models table other = .ok added) ∨
      ∃ reason otherReason, Bad models table relationship reason ∧
        Bad models table other otherReason ∧ reason.Mirrors otherReason := by
  rcases contribution_spec models table relationship with
    ⟨added, computed, contributes⟩ | ⟨reason, _, side, concerns, fails⟩
  · refine .inl ⟨added, computed, contribution_eq_ok_iff.mpr ?_⟩
    cases contributes with
    | nothing irrelevant =>
      exact .nothing fun side concerns => irrelevant _ (reverses.symm.concerns concerns)
    | key concerns gives => exact .key (reverses.concerns concerns) (reverses.gives gives)
  · obtain ⟨otherReason, otherFails, mirrors⟩ := reverses.fails fails
    exact .inr ⟨reason, otherReason, ⟨side, concerns, fails⟩,
      ⟨side.opposite, reverses.concerns concerns, otherFails⟩, mirrors⟩

end Relationship

/-! ## Lists of relationships -/

section Lists

variable {models : List Model} {table : String} {relationship other : Relationship}

/-- A relationship is kept as it is or told from the other side. -/
inductive Turned : Relationship → Relationship → Prop where
  | kept (relationship : Relationship) : Turned relationship relationship
  | reversed {relationship other : Relationship}
      (reverses : relationship.Reverses other) :
      Turned relationship other

/-- A relationship is bad for the reason that the one it was turned from is bad. -/
inductive SameFailure (bad : Relationship) (reason : ResolutionFailure) :
    Relationship → ResolutionFailure → Prop where
  | kept : SameFailure bad reason bad reason
  | reversed {otherBad otherReason}
      (reverses : bad.Reverses otherBad)
      (mirrors : reason.Mirrors otherReason) :
      SameFailure bad reason otherBad otherReason

/-- The relationship at a position is bad, and the first one that is. -/
structure FailsAt (models : List Model) (table : String) (relationships : List Relationship)
    (position : Nat) (bad : Relationship) (reason : ResolutionFailure) : Prop where
  there : relationships[position]? = some bad
  before : ∃ keys, foreignKeys models table (relationships.take position) = .ok keys
  wrong : Bad models table bad reason
  failed : foreignKeys models table relationships = .error (.resolution table bad.label reason)

theorem Turned.contribution
    (turned : Turned relationship other)
    (models : List Model)
    (table : String) :
    (∃ added, SemanticIndex.contribution models table relationship = .ok added ∧
        SemanticIndex.contribution models table other = .ok added) ∨
      ∃ reason otherReason, Bad models table relationship reason ∧
        Bad models table other otherReason ∧
        SameFailure relationship reason other otherReason := by
  cases turned with
  | kept =>
    rcases contribution_spec models table relationship with
      ⟨added, computed, _⟩ | ⟨reason, _, bad⟩
    · exact .inl ⟨added, computed, computed⟩
    · exact .inr ⟨reason, reason, bad, bad, .kept⟩
  | reversed reverses =>
    rcases reverses.contribution models table with
      same | ⟨reason, otherReason, bad, otherBad, mirrors⟩
    · exact .inl same
    · exact .inr ⟨reason, otherReason, bad, otherBad, .reversed reverses mirrors⟩

theorem FailsAt.of_bad
    {reason : ResolutionFailure}
    (bad : Bad models table relationship reason)
    (rest : List Relationship) :
    FailsAt models table (relationship :: rest) 0 relationship reason where
  there := rfl
  before := ⟨[], rfl⟩
  wrong := bad
  failed := by
    rw [foreignKeys_cons, contribution_eq_error_iff.mpr ⟨reason, bad, rfl⟩]
    rfl

theorem FailsAt.cons
    {added : Option ForeignKey}
    (computed : contribution models table relationship = .ok added)
    {rest : List Relationship}
    {position : Nat}
    {bad : Relationship}
    {reason : ResolutionFailure}
    (fails : FailsAt models table rest position bad reason) :
    FailsAt models table (relationship :: rest) (position + 1) bad reason where
  there := fails.there
  before := by
    obtain ⟨keys, resolved⟩ := fails.before
    refine ⟨added.toList ++ keys, ?_⟩
    rw [List.take_succ_cons, foreignKeys_cons, computed, resolved]
    rfl
  wrong := fails.wrong
  failed := by
    rw [foreignKeys_cons, computed, fails.failed]
    rfl

end Lists

/--
Relationships told from their other sides, some or all of them, give every table the same foreign
keys in the same order; or the first bad one stands at the same position and is bad for the same
reason.
-/
theorem foreignKeys_turned
    {relationships others : List Relationship}
    (turned : List.Forall₂ Turned relationships others)
    (models : List Model)
    (table : String) :
    (∃ keys, foreignKeys models table relationships = .ok keys ∧
        foreignKeys models table others = .ok keys) ∨
      ∃ position bad reason otherBad otherReason,
        FailsAt models table relationships position bad reason ∧
          FailsAt models table others position otherBad otherReason ∧
          SameFailure bad reason otherBad otherReason := by
  induction turned with
  | nil => exact .inl ⟨[], rfl, rfl⟩
  | @cons relationship other rest otherRest turned _ induction =>
    rcases turned.contribution models table with
      ⟨added, computed, otherComputed⟩ | ⟨reason, otherReason, bad, otherBad, same⟩
    · rcases induction with
        ⟨keys, resolved, otherResolved⟩ |
        ⟨position, bad, reason, otherBad, otherReason, fails, otherFails, same⟩
      · refine .inl ⟨added.toList ++ keys, ?_, ?_⟩
        · rw [foreignKeys_cons, computed, resolved]
          rfl
        · rw [foreignKeys_cons, otherComputed, otherResolved]
          rfl
      · exact .inr ⟨position + 1, bad, reason, otherBad, otherReason, fails.cons computed,
          otherFails.cons otherComputed, same⟩
    · exact .inr ⟨0, relationship, reason, other, otherReason, .of_bad bad rest,
        .of_bad otherBad otherRest, same⟩

/-- A relationship of a model with itself, a good one between two models and a bad one. -/
def toldFirst : List Relationship :=
  [⟨"manager", "staff", "staff", .manyToOne, "staff.manager = staff.id", []⟩,
    ⟨"desk", "staff", "desks", .oneToOne, "staff.desk = desks.id", []⟩,
    ⟨"team", "staff", "teams", .manyToOne, "staff.team = groups.id", []⟩]

/-- The first and the last of them told from the other side. -/
def toldSecond : List Relationship :=
  [⟨"manager", "staff", "staff", .oneToMany, " staff.id=staff.manager ", []⟩,
    ⟨"desk", "staff", "desks", .oneToOne, "staff.desk = desks.id", []⟩,
    ⟨"team", "teams", "staff", .oneToMany, " groups.id=staff.team ", []⟩]

theorem foreignKeys_turned_staff :
    List.Forall₂ Turned toldFirst toldSecond ∧
      ∀ models table,
        (∃ keys, foreignKeys models table toldFirst = .ok keys ∧
            foreignKeys models table toldSecond = .ok keys) ∨
          ∃ position bad reason otherBad otherReason,
            FailsAt models table toldFirst position bad reason ∧
              FailsAt models table toldSecond position otherBad otherReason ∧
              SameFailure bad reason otherBad otherReason := by
  have turned : List.Forall₂ Turned toldFirst toldSecond := by
    refine .cons (.reversed ?_) (.cons (.kept _) (.cons (.reversed ?_) .nil))
    · exact ⟨rfl, rfl, rfl, nofun, "staff.manager ".toList, " staff.id".toList, by decide,
        by decide, rfl, rfl⟩
    · exact ⟨rfl, rfl, rfl, nofun, "staff.team ".toList, " groups.id".toList, by decide,
        by decide, rfl, rfl⟩
  exact ⟨turned, foreignKeys_turned turned⟩

end SemanticIndex
