import SemanticIndex.Store.Memory

/-!
# Relaying stores

A relaying store passes the basic operations on to a store in memory and may refuse all calls of
some of them.  It has no replacing operation of its own, so it replaces by clearing and writing.
-/

namespace SemanticIndex

/-- A basic operation of a store. -/
inductive Operation where
  | count
  | delete
  | write
deriving DecidableEq, Inhabited

/-- The name of an operation in messages. -/
def Operation.name : Operation → String
  | .count => "count"
  | .delete => "delete"
  | .write => "write"

namespace Relay

variable {state result : Type}

/-- Perform an action unless its operation is refused. -/
def guard
    (refuses : Operation → Bool)
    (operation : Operation)
    (action : Action state result) : Action state result :=
  if refuses operation then throw (.store (.refused operation.name)) else action

theorem perform_guard
    (refuses : Operation → Bool)
    (operation : Operation)
    (action : Action state result)
    (initial : state) :
    (guard refuses operation action).perform initial =
      if refuses operation then (.error (.store (.refused operation.name)), initial)
      else action.perform initial := by
  unfold guard
  split <;> rfl

/-- The operations of a store that relays to another one and refuses some of them. -/
def around (inner : BasicStore state) (refuses : Operation → Bool) : Store state :=
  BasicStore.toStore {
    count := guard refuses .count inner.count
    delete := fun ids => guard refuses .delete (inner.delete ids)
    write := fun documents policy => guard refuses .write (inner.write documents policy) }

/-- A relaying store over a store in memory that refuses the given operation, if any. -/
def store (refused : Option Operation) : Store Memory :=
  around Memory.store.toBasicStore fun operation => refused == some operation

end Relay

end SemanticIndex
