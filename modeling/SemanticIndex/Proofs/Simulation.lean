import SemanticIndex.Store.Relay
import SemanticIndex.Store.Sync

/-!
# Simulation of actions and stores

An action follows another one under a view of its state if both give the same result and the view
of the final state is the final state of the other action.  Following is kept by the ways in which
actions are put together, so a store whose operations follow those of a simpler store may be
replaced by it in every larger action.  Where no view takes one state to the other, a relation
between them does: two actions match if they give the same result and related states.
-/

namespace SemanticIndex

namespace Action

variable {first second third fourth state result value : Type}

/-- Seen through a view of the state, an action does what another action does. -/
def Follows
    (view : first → second)
    (action : Action first result)
    (model : Action second result) : Prop :=
  ∀ initial, model.perform (view initial) = Prod.map id view (action.perform initial)

/-- An action leaves a view of the state as it is. -/
def Keeps
    (view : first → second)
    (action : Action first result) : Prop :=
  ∀ initial, view (action.perform initial).2 = view initial

/-- From related states two actions give the same result and related states. -/
def Matches
    (relation : first → second → Prop)
    (action : Action first result)
    (other : Action second result) : Prop :=
  ∀ ⦃one two⦄, relation one two →
    (action.perform one).1 = (other.perform two).1 ∧
      relation (action.perform one).2 (other.perform two).2

namespace Follows

variable {view : first → second}

theorem refl (action : Action state result) : Follows id action action := by
  intro initial
  rfl

theorem pure (value : result) :
    Follows view (Pure.pure value) (Pure.pure value) := by
  intro initial
  rfl

theorem throw (error : Error) :
    Follows view (MonadExcept.throw error : Action first result) (MonadExcept.throw error) := by
  intro initial
  rfl

theorem ofExcept (value : Except Error result) :
    Follows view (Action.ofExcept value) (Action.ofExcept value) := by
  intro initial
  rfl

theorem bind
    {action : Action first value}
    {model : Action second value}
    {next : value → Action first result}
    {nextModel : value → Action second result}
    (follows : Follows view action model)
    (nextFollows : ∀ value, Follows view (next value) (nextModel value)) :
    Follows view (action >>= next) (model >>= nextModel) := by
  intro initial
  rw [perform_bind, perform_bind, follows initial]
  rcases action.perform initial with ⟨outcome, middle⟩
  cases outcome with
  | ok value => exact nextFollows value middle
  | error error => rfl

theorem ite
    {action other : Action first result}
    {model otherModel : Action second result}
    (condition : Prop)
    [Decidable condition]
    (follows : Follows view action model)
    (otherFollows : Follows view other otherModel) :
    Follows view (if condition then action else other)
      (if condition then model else otherModel) := by
  split
  · exact follows
  · exact otherFollows

/-- A fold follows another one if each of its steps does. -/
theorem foldlM
    {step : value → third → Action first value}
    {stepModel : value → third → Action second value}
    (follows : ∀ value item, Follows view (step value item) (stepModel value item))
    (items : List third)
    (value : value) :
    Follows view (items.foldlM step value) (items.foldlM stepModel value) := by
  induction items generalizing value with
  | nil => exact .pure value
  | cons item rest induction =>
    rw [List.foldlM_cons, List.foldlM_cons]
    exact (follows value item).bind induction

/-- Following is kept when a state is put behind the one acted on. -/
theorem onFirst
    {action : Action first result}
    {model : Action second result}
    (follows : Follows view action model)
    (other : third → fourth) :
    Follows (Prod.map view other) action.onFirst model.onFirst := by
  rintro ⟨initial, beside⟩
  simp only [Prod.map, perform_onFirst, follows initial, id]

/-- Following is kept when a state is put in front of the one acted on. -/
theorem onSecond
    {action : Action first result}
    {model : Action second result}
    (follows : Follows view action model)
    (other : third → fourth) :
    Follows (Prod.map other view) action.onSecond model.onSecond := by
  rintro ⟨beside, initial⟩
  simp only [Prod.map, perform_onSecond, follows initial, id]

/-- An action that keeps another view does nothing to it. -/
theorem withSecond
    {action : Action first result}
    {model : Action second result}
    {other : first → third}
    (follows : Follows view action model)
    (keeps : Keeps other action) :
    Follows (fun initial => (view initial, other initial)) action model.onFirst := by
  intro initial
  simp only [perform_onFirst, follows initial, Prod.map, id, keeps initial]

/-- An action that keeps another view does nothing to it. -/
theorem withFirst
    {action : Action first result}
    {model : Action second result}
    {other : first → third}
    (follows : Follows view action model)
    (keeps : Keeps other action) :
    Follows (fun initial => (other initial, view initial)) action model.onSecond := by
  intro initial
  simp only [perform_onSecond, follows initial, Prod.map, id, keeps initial]

end Follows

namespace Keeps

variable {view : first → second}

theorem pure (value : result) : Keeps view (Pure.pure value : Action first result) := by
  intro initial
  rfl

theorem ofExcept (value : Except Error result) : Keeps view (Action.ofExcept value) := by
  intro initial
  rfl

theorem bind
    {action : Action first value}
    {next : value → Action first result}
    (keeps : Keeps view action)
    (nextKeeps : ∀ value, Keeps view (next value)) :
    Keeps view (action >>= next) := by
  intro initial
  have kept := keeps initial
  rw [perform_bind]
  rcases performed : action.perform initial with ⟨outcome, middle⟩
  rw [performed] at kept
  cases outcome with
  | ok value => exact (nextKeeps value middle).trans kept
  | error error => exact kept

theorem ite
    {action other : Action first result}
    (condition : Prop)
    [Decidable condition]
    (keeps : Keeps view action)
    (otherKeeps : Keeps view other) :
    Keeps view (if condition then action else other) := by
  split
  · exact keeps
  · exact otherKeeps

/-- An action on the first of two states keeps every view of the second. -/
theorem onFirst (action : Action third result) (view : first → second) :
    Keeps (fun states => view states.2) (action.onFirst : Action (third × first) result) := by
  intro initial
  rfl

theorem onSecond
    {action : Action first result}
    (keeps : Keeps view action) :
    Keeps (fun states => view states.2) (action.onSecond : Action (third × first) result) := by
  intro initial
  exact keeps initial.2

end Keeps

namespace Matches

variable {relation : first → second → Prop}

theorem pure (value : result) :
    Matches relation (Pure.pure value) (Pure.pure value) := by
  intro one two related
  exact ⟨rfl, related⟩

theorem bind
    {action : Action first value}
    {other : Action second value}
    {next : value → Action first result}
    {otherNext : value → Action second result}
    (alike : Matches relation action other)
    (nextMatches : ∀ value, Matches relation (next value) (otherNext value)) :
    Matches relation (action >>= next) (other >>= otherNext) := by
  intro one two related
  have same := alike related
  rw [perform_bind, perform_bind]
  rcases performed : action.perform one with ⟨outcome, middle⟩
  rcases otherPerformed : other.perform two with ⟨otherOutcome, otherMiddle⟩
  rw [performed, otherPerformed] at same
  obtain ⟨rfl, middleRelated⟩ : outcome = otherOutcome ∧ relation middle otherMiddle := same
  cases outcome with
  | ok value => exact nextMatches value middleRelated
  | error error => exact ⟨rfl, middleRelated⟩

theorem ite
    {action otherwise : Action first result}
    {other otherOtherwise : Action second result}
    (condition : Prop)
    [Decidable condition]
    (thenMatches : Matches relation action other)
    (elseMatches : Matches relation otherwise otherOtherwise) :
    Matches relation (if condition then action else otherwise)
      (if condition then other else otherOtherwise) := by
  split
  · exact thenMatches
  · exact elseMatches

end Matches

end Action

/-- Seen through a view of the state, a store's basic operations do what those of another do. -/
structure BasicStore.Follows
    {first second : Type}
    (view : first → second)
    (store : BasicStore first)
    (model : BasicStore second) : Prop where
  count : Action.Follows view store.count model.count
  delete : ∀ ids, Action.Follows view (store.delete ids) (model.delete ids)
  write : ∀ documents policy,
    Action.Follows view (store.write documents policy) (model.write documents policy)

namespace BasicStore.Follows

variable {first second : Type} {view : first → second}
variable {store : BasicStore first} {model : BasicStore second}

theorem clear (follows : BasicStore.Follows view store model) :
    Action.Follows view store.clear model.clear := by
  apply follows.count.bind
  intro count
  apply Action.Follows.ite
  · exact .pure 0
  · apply (follows.delete _).bind
    intro _
    exact .pure count

theorem clearAndWrite
    (follows : BasicStore.Follows view store model)
    (documents : List EmbeddedDocument) :
    Action.Follows view (store.clearAndWrite documents) (model.clearAndWrite documents) := by
  apply follows.clear.bind
  intro _
  exact follows.write documents .overwrite

end BasicStore.Follows

/-- Seen through a view of the state, a store does what another store does. -/
structure Store.Follows
    {first second : Type}
    (view : first → second)
    (store : Store first)
    (model : Store second) : Prop
    extends BasicStore.Follows view store.toBasicStore model.toBasicStore where
  replaceAll : ∀ documents,
    Action.Follows view (store.replaceAll documents) (model.replaceAll documents)

/-- A store leaves a view of the state as it is. -/
structure Store.Keeps
    {first second : Type}
    (view : first → second)
    (store : Store first) : Prop where
  count : Action.Keeps view store.count
  delete : ∀ ids, Action.Keeps view (store.delete ids)
  write : ∀ documents policy, Action.Keeps view (store.write documents policy)
  replaceAll : ∀ documents, Action.Keeps view (store.replaceAll documents)

namespace Store.Keeps

variable {first second : Type} {view : first → second} {store : Store first}

theorem clear (keeps : Store.Keeps view store) : Action.Keeps view store.clear := by
  apply keeps.count.bind
  intro count
  apply Action.Keeps.ite
  · exact .pure 0
  · apply (keeps.delete _).bind
    intro _
    exact .pure count

theorem commit
    (keeps : Store.Keeps view store)
    (documents : List EmbeddedDocument)
    (mode : SyncMode) :
    Action.Keeps view (store.commit documents mode) := by
  cases mode with
  | clearThenWrite => exact keeps.write documents .overwrite
  | staged => exact keeps.replaceAll documents

end Store.Keeps

namespace Store.Follows

variable {first second third fourth : Type} {view : first → second}
variable {store : Store first} {model : Store second}

theorem commit
    (follows : Store.Follows view store model)
    (documents : List EmbeddedDocument)
    (mode : SyncMode) :
    Action.Follows view (store.commit documents mode) (model.commit documents mode) := by
  cases mode with
  | clearThenWrite => exact follows.write documents .overwrite
  | staged => exact follows.replaceAll documents

theorem onFirst
    (follows : Store.Follows view store model)
    (other : third → fourth) :
    Store.Follows (Prod.map view other) store.onFirst model.onFirst where
  count := follows.count.onFirst other
  delete ids := (follows.delete ids).onFirst other
  write documents policy := (follows.write documents policy).onFirst other
  replaceAll documents := (follows.replaceAll documents).onFirst other

theorem onSecond
    (follows : Store.Follows view store model)
    (other : third → fourth) :
    Store.Follows (Prod.map other view) store.onSecond model.onSecond where
  count := follows.count.onSecond other
  delete ids := (follows.delete ids).onSecond other
  write documents policy := (follows.write documents policy).onSecond other
  replaceAll documents := (follows.replaceAll documents).onSecond other

theorem withSecond
    {other : first → third}
    (follows : Store.Follows view store model)
    (keeps : Store.Keeps other store) :
    Store.Follows (fun initial => (view initial, other initial)) store model.onFirst where
  count := follows.count.withSecond keeps.count
  delete ids := (follows.delete ids).withSecond (keeps.delete ids)
  write documents policy := (follows.write documents policy).withSecond
    (keeps.write documents policy)
  replaceAll documents := (follows.replaceAll documents).withSecond (keeps.replaceAll documents)

theorem withFirst
    {other : first → third}
    (follows : Store.Follows view store model)
    (keeps : Store.Keeps other store) :
    Store.Follows (fun initial => (other initial, view initial)) store model.onSecond where
  count := follows.count.withFirst keeps.count
  delete ids := (follows.delete ids).withFirst (keeps.delete ids)
  write documents policy := (follows.write documents policy).withFirst
    (keeps.write documents policy)
  replaceAll documents := (follows.replaceAll documents).withFirst (keeps.replaceAll documents)

end Store.Follows

namespace Relay

variable {first second result : Type} {view : first → second}

theorem guard_follows
    {action : Action first result}
    {model : Action second result}
    (refuses : Operation → Bool)
    (operation : Operation)
    (follows : Action.Follows view action model) :
    Action.Follows view (guard refuses operation action) (guard refuses operation model) :=
  .ite _ (.throw _) follows

/-- Relaying keeps following. -/
theorem around_follows
    {inner : BasicStore first}
    {model : BasicStore second}
    (refuses : Operation → Bool)
    (follows : BasicStore.Follows view inner model) :
    Store.Follows view (around inner refuses) (around model refuses) := by
  have basic : BasicStore.Follows view
      (around inner refuses).toBasicStore (around model refuses).toBasicStore :=
    { count := guard_follows refuses .count follows.count
      delete := fun ids => guard_follows refuses .delete (follows.delete ids)
      write := fun documents policy =>
        guard_follows refuses .write (follows.write documents policy) }
  exact { basic with replaceAll := basic.clearAndWrite }

end Relay

end SemanticIndex
