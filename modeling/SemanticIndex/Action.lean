import SemanticIndex.Error

/-!
# Actions

An action changes a state and gives a result or an error.  The state that an action reaches
before it fails is kept, so that a failure may leave work half done.
-/

namespace SemanticIndex

/-- A computation with a state and errors, whose state survives errors. -/
abbrev Action (state result : Type) :=
  ExceptT Error (StateM state) result

namespace Action

variable {first second state result : Type}

/-- An action given by its result and final state for each initial state. -/
def ofFunction (function : state → Except Error result × state) : Action state result :=
  ExceptT.mk function

/-- The result and the final state of an action. -/
def perform (action : Action state result) (initial : state) : Except Error result × state :=
  action.run initial

/-- An action that leaves the state alone. -/
def ofExcept (value : Except Error result) : Action state result :=
  ofFunction fun initial => (value, initial)

/-- An action that only reads the state. -/
def reading (read : state → Except Error result) : Action state result :=
  ofFunction fun initial => (read initial, initial)

/-- An action on the first of two states. -/
def onFirst (action : Action first result) : Action (first × second) result :=
  ofFunction fun (one, other) =>
    let (value, final) := action.perform one
    (value, (final, other))

/-- An action on the second of two states. -/
def onSecond (action : Action second result) : Action (first × second) result :=
  ofFunction fun (other, one) =>
    let (value, final) := action.perform one
    (value, (other, final))

/-! ## Performing actions -/

section Perform

variable {value : Type}

@[simp]
theorem perform_ofFunction
    (function : state → Except Error result × state)
    (initial : state) :
    (ofFunction function).perform initial = function initial :=
  rfl

@[simp]
theorem perform_ofExcept
    (value : Except Error result)
    (initial : state) :
    (ofExcept value : Action state result).perform initial = (value, initial) :=
  rfl

@[simp]
theorem perform_reading
    (read : state → Except Error result)
    (initial : state) :
    (reading read).perform initial = (read initial, initial) :=
  rfl

@[simp]
theorem perform_onFirst
    (action : Action first result)
    (initial : first × second) :
    action.onFirst.perform initial =
      ((action.perform initial.1).1, ((action.perform initial.1).2, initial.2)) :=
  rfl

@[simp]
theorem perform_onSecond
    (action : Action second result)
    (initial : first × second) :
    action.onSecond.perform initial =
      ((action.perform initial.2).1, (initial.1, (action.perform initial.2).2)) :=
  rfl

@[simp]
theorem perform_pure
    (value : result)
    (initial : state) :
    (pure value : Action state result).perform initial = (.ok value, initial) :=
  rfl

@[simp]
theorem perform_throw
    (error : Error)
    (initial : state) :
    (throw error : Action state result).perform initial = (.error error, initial) :=
  rfl

/-- The second action runs from the state that the first one leaves, unless the first one fails. -/
theorem perform_bind
    (action : Action state value)
    (next : value → Action state result)
    (initial : state) :
    (action >>= next).perform initial =
      match action.perform initial with
      | (.ok value, middle) => (next value).perform middle
      | (.error error, middle) => (.error error, middle) := by
  change (action.run >>= ExceptT.bindCont next) initial = _
  rcases performed : action.perform initial with ⟨outcome, middle⟩
  have started : action.run initial = (outcome, middle) := performed
  simp only [bind, StateT.bind, started]
  cases outcome <;> rfl

theorem perform_bind_of_ok
    {action : Action state value}
    {initial middle : state}
    {obtained : value}
    (performed : action.perform initial = (.ok obtained, middle))
    (next : value → Action state result) :
    (action >>= next).perform initial = (next obtained).perform middle := by
  rw [perform_bind, performed]

theorem perform_bind_of_error
    {action : Action state value}
    {initial middle : state}
    {error : Error}
    (performed : action.perform initial = (.error error, middle))
    (next : value → Action state result) :
    (action >>= next).perform initial = (.error error, middle) := by
  rw [perform_bind, performed]

theorem onFirst_bind
    (action : Action first value)
    (next : value → Action first result) :
    (action >>= next).onFirst =
      (action.onFirst >>= fun value => (next value).onFirst :
        Action (first × second) result) := by
  funext initial
  change (action >>= next).onFirst.perform initial = Action.perform _ initial
  rw [perform_bind, perform_onFirst, perform_onFirst, perform_bind]
  rcases action.perform initial.1 with ⟨outcome, middle⟩
  cases outcome <;> rfl

theorem onSecond_bind
    (action : Action second value)
    (next : value → Action second result) :
    (action >>= next).onSecond =
      (action.onSecond >>= fun value => (next value).onSecond :
        Action (first × second) result) := by
  funext initial
  change (action >>= next).onSecond.perform initial = Action.perform _ initial
  rw [perform_bind, perform_onSecond, perform_onSecond, perform_bind]
  rcases action.perform initial.2 with ⟨outcome, middle⟩
  cases outcome <;> rfl

end Perform

end Action

end SemanticIndex
