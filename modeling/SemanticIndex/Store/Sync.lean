import SemanticIndex.Store.Interface

/-!
# Replacing a collection

A new batch replaces a collection in one of two ways: the old documents are cleared early and the
batch is written later, or the batch is swapped in at once when it is complete.  Clearing deletes
the ids below the count of documents, so it empties a store whose ids are the positions of its
documents.
-/

namespace SemanticIndex

/-- How a run replaces a collection. -/
inductive SyncMode where
  /-- Clear first and write later. -/
  | clearThenWrite
  /-- Swap the complete batch in. -/
  | staged
deriving DecidableEq, Inhabited

namespace SyncMode

/-- The name of a mode in settings and reports. -/
def name : SyncMode → String
  | .clearThenWrite => "clear_then_write"
  | .staged => "staged"

def ofName? (name : String) : Option SyncMode :=
  if name = "clear_then_write" then some .clearThenWrite
  else if name = "staged" then some .staged
  else none

end SyncMode

/-- Store a complete batch; in the clearing mode the store has been cleared before. -/
def Store.commit
    {state : Type}
    (store : Store state)
    (documents : List EmbeddedDocument)
    (mode : SyncMode) : Action state Nat :=
  match mode with
  | .clearThenWrite => store.write documents .overwrite
  | .staged => store.replaceAll documents

namespace Store

variable {first second : Type}

theorem clear_onFirst (store : Store first) :
    (store.onFirst.clear : Action (first × second) Nat) = store.clear.onFirst := by
  rw [BasicStore.clear, BasicStore.clear, Action.onFirst_bind]
  congr 1
  funext count
  split
  · rfl
  · rw [Action.onFirst_bind]
    rfl

theorem clear_onSecond (store : Store second) :
    (store.onSecond.clear : Action (first × second) Nat) = store.clear.onSecond := by
  rw [BasicStore.clear, BasicStore.clear, Action.onSecond_bind]
  congr 1
  funext count
  split
  · rfl
  · rw [Action.onSecond_bind]
    rfl

theorem commit_onFirst
    (store : Store first)
    (documents : List EmbeddedDocument)
    (mode : SyncMode) :
    (store.onFirst.commit documents mode : Action (first × second) Nat) =
      (store.commit documents mode).onFirst := by
  cases mode <;> rfl

theorem commit_onSecond
    (store : Store second)
    (documents : List EmbeddedDocument)
    (mode : SyncMode) :
    (store.onSecond.commit documents mode : Action (first × second) Nat) =
      (store.commit documents mode).onSecond := by
  cases mode <;> rfl

end Store

end SemanticIndex
