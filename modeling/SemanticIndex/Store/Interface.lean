import SemanticIndex.Action
import SemanticIndex.Document

/-!
# Document stores

A store keeps one collection of documents, each under its id.  Three operations are basic:
counting, deleting by id and writing under a duplicate policy.  Replacing the whole collection can
be built from them by clearing the store and writing, which is not atomic; stores that can do
better bring their own operation.
-/

namespace SemanticIndex

/-- What to do when the id of a written document is taken. -/
inductive DuplicatePolicy where
  | overwrite
  | skip
  /-- Write nothing of the batch. -/
  | fail
deriving DecidableEq, Inhabited

/-- The basic operations on a collection in the given kind of state. -/
structure BasicStore (state : Type) where
  count : Action state Nat
  /-- Delete the documents with the given ids; unknown ids do not matter. -/
  delete : List String → Action state Unit
  /-- Write documents and count those that were written. -/
  write : List EmbeddedDocument → DuplicatePolicy → Action state Nat

namespace BasicStore

variable {first second state : Type}

/-- Delete the documents whose ids are the positions below their count, and give that count. -/
def clear (store : BasicStore state) : Action state Nat := do
  let count ← store.count
  if count = 0 then
    return 0
  else
    store.delete ((List.range count).map toString)
    return count

/-- Replace the collection by clearing it and writing the new documents. -/
def clearAndWrite
    (store : BasicStore state)
    (documents : List EmbeddedDocument) : Action state Nat := do
  let _ ← store.clear
  store.write documents .overwrite

end BasicStore

/-- The operations on a collection in the given kind of state. -/
structure Store (state : Type) extends BasicStore state where
  /-- Replace the collection and count the documents of the new one. -/
  replaceAll : List EmbeddedDocument → Action state Nat

/-- A store with basic operations only. -/
def BasicStore.toStore {state : Type} (store : BasicStore state) : Store state where
  toBasicStore := store
  replaceAll := store.clearAndWrite

namespace Store

variable {first second : Type}

/-- A store in the first of two states. -/
def onFirst (store : Store first) : Store (first × second) where
  count := store.count.onFirst
  delete ids := (store.delete ids).onFirst
  write documents policy := (store.write documents policy).onFirst
  replaceAll documents := (store.replaceAll documents).onFirst

/-- A store in the second of two states. -/
def onSecond (store : Store second) : Store (first × second) where
  count := store.count.onSecond
  delete ids := (store.delete ids).onSecond
  write documents policy := (store.write documents policy).onSecond
  replaceAll documents := (store.replaceAll documents).onSecond

end Store

/--
The ids of a batch that are taken already or occur earlier in the batch, in the order of the
batch; `seen` holds the ids that came before.
-/
def collidingIds (taken : String → Bool) (seen : List String) : List String → List String
  | [] => []
  | id :: rest =>
    if seen.contains id || taken id then id :: collidingIds taken (id :: seen) rest
    else collidingIds taken (id :: seen) rest

end SemanticIndex
