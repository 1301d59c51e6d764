import SemanticIndex.Proofs.Store.Refinement

/-!
# Calls of stores

Whoever holds a store counts, deletes, writes, replaces, clears, commits and fetches in any order.
A call is one of these with its arguments, so that a history of a store is a list of calls.  Where
a store follows another one under a view of its state, every call and every history does.
-/

namespace SemanticIndex

variable {first second state result : Type}

/-- A store whose documents can be fetched by id. -/
structure ReadableStore (state : Type) extends Store state where
  get : String → Action state (Option EmbeddedDocument)

/-- A call of a store with its arguments. -/
inductive StoreCall where
  | count
  | delete (ids : List String)
  /-- Write under a policy; the write of the synchronization does nothing else. -/
  | write (documents : List EmbeddedDocument) (policy : DuplicatePolicy)
  | replaceAll (documents : List EmbeddedDocument)
  | clear
  | commit (documents : List EmbeddedDocument) (mode : SyncMode)
  | get (id : String)

inductive StoreResult where
  | done
  | number (value : Nat)
  | document (found : Option EmbeddedDocument)
  | documents (listed : List EmbeddedDocument)
deriving DecidableEq, Inhabited

namespace StoreCall

def on (store : ReadableStore state) : StoreCall → Action state StoreResult
  | .count => do return .number (← store.count)
  | .delete ids => do
    store.delete ids
    return .done
  | .write documents policy => do return .number (← store.write documents policy)
  | .replaceAll documents => do return .number (← store.replaceAll documents)
  | .clear => do return .number (← store.clear)
  | .commit documents mode => do return .number (← store.commit documents mode)
  | .get id => do return .document (← store.get id)

/-- The batch with which a call replaces the whole collection, if it does. -/
def replacement? : StoreCall → Option (List EmbeddedDocument)
  | .replaceAll documents => some documents
  | .commit documents .staged => some documents
  | _ => none

/-- The state of a store after a history of calls. -/
def after
    (store : ReadableStore state)
    (calls : List StoreCall)
    (initial : state) : state :=
  calls.foldl (fun state call => ((call.on store).perform state).2) initial

end StoreCall

/-- Seen through a view of the state, a store is read and written as another one is. -/
structure ReadableStore.Follows
    (view : first → second)
    (store : ReadableStore first)
    (model : ReadableStore second) : Prop where
  operations : Store.Follows view store.toStore model.toStore
  get : ∀ id, Action.Follows view (store.get id) (model.get id)

namespace ReadableStore.Follows

variable {view : first → second} {store : ReadableStore first} {model : ReadableStore second}

theorem on
    (follows : ReadableStore.Follows view store model)
    (call : StoreCall) :
    Action.Follows view (call.on store) (call.on model) := by
  cases call with
  | count => exact follows.operations.count.bind fun count => .pure (StoreResult.number count)
  | delete ids => exact (follows.operations.delete ids).bind fun _ => .pure StoreResult.done
  | write documents policy =>
    apply (follows.operations.write documents policy).bind
    intro count
    exact .pure (StoreResult.number count)
  | replaceAll documents =>
    apply (follows.operations.replaceAll documents).bind
    intro count
    exact .pure (StoreResult.number count)
  | clear => exact follows.operations.clear.bind fun count => .pure (StoreResult.number count)
  | commit documents mode =>
    apply (follows.operations.commit documents mode).bind
    intro count
    exact .pure (StoreResult.number count)
  | get id => exact (follows.get id).bind fun found => .pure (StoreResult.document found)

theorem after
    (follows : ReadableStore.Follows view store model)
    (calls : List StoreCall)
    (initial : first) :
    StoreCall.after model calls (view initial) = view (StoreCall.after store calls initial) := by
  induction calls generalizing initial with
  | nil => rfl
  | cons call rest induction =>
    have performed := congrArg Prod.snd (follows.on call initial)
    change StoreCall.after model rest ((call.on model).perform (view initial)).2 = _
    rw [performed]
    exact induction ((call.on store).perform initial).2

end ReadableStore.Follows

structure ReadableStore.Keeps
    (view : first → second)
    (store : ReadableStore first) : Prop where
  operations : Store.Keeps view store.toStore
  get : ∀ id, Action.Keeps view (store.get id)

theorem ReadableStore.Keeps.on
    {view : first → second}
    {store : ReadableStore first}
    (keeps : ReadableStore.Keeps view store)
    (call : StoreCall) :
    Action.Keeps view (call.on store) := by
  cases call with
  | count => exact keeps.operations.count.bind fun count => .pure (StoreResult.number count)
  | delete ids => exact (keeps.operations.delete ids).bind fun _ => .pure StoreResult.done
  | write documents policy =>
    apply (keeps.operations.write documents policy).bind
    intro count
    exact .pure (StoreResult.number count)
  | replaceAll documents =>
    apply (keeps.operations.replaceAll documents).bind
    intro count
    exact .pure (StoreResult.number count)
  | clear => exact keeps.operations.clear.bind fun count => .pure (StoreResult.number count)
  | commit documents mode =>
    apply (keeps.operations.commit documents mode).bind
    intro count
    exact .pure (StoreResult.number count)
  | get id => exact (keeps.get id).bind fun found => .pure (StoreResult.document found)

/-! ## Stores that can be read -/

def Memory.readable : ReadableStore Memory where
  toStore := Memory.store
  get id := .reading fun memory => .ok (memory.get? id)

def Database.readable (name : String) : ReadableStore Database where
  toStore := Database.store name
  get id := .reading fun database => database.get? name id

def Contents.readable (replaced : List EmbeddedDocument → Nat) : ReadableStore Contents where
  toStore := Contents.store replaced
  get id := .reading fun contents => contents.read id

theorem Memory.readable_follows :
    ReadableStore.Follows contents readable
      (Contents.readable fun documents => (Contents.ofDocuments documents).size) where
  operations := store_follows
  get id := by
    intro memory
    simp only [Contents.readable, readable, Action.perform_reading, read_contents]
    rfl

theorem Database.readable_follows (name : String) :
    ReadableStore.Follows (contents name) (readable name) (Contents.readable List.length) where
  operations := store_follows name
  get id := by
    intro database
    simp only [Contents.readable, readable, Action.perform_reading, read_contents]
    rfl

theorem Database.readable_keeps
    {name other : String}
    (differ : other ≠ name) :
    ReadableStore.Keeps (contents other) (readable name) where
  operations := store_keeps differ
  get id := by
    intro database
    rfl

end SemanticIndex
