import SemanticIndex.Indexing
import SemanticIndex.Proofs.Store.Backend

/-!
# Pairs of stores

A run works on two separate collections.  They are kept in stores with states of their own, or
under two names in one database.  Either way a run does to the contents of the pair what it would
do to two tables of rows.
-/

namespace SemanticIndex

variable {embedding first second : Type}

/-- Seen through a view of the state, the collections of a run do what those of another run do. -/
structure Targets.Follows
    (view : first → second)
    (targets : Targets first)
    (model : Targets second) : Prop where
  ddl : Store.Follows view targets.ddl model.ddl
  views : Store.Follows view targets.views model.views
  mode : targets.mode = model.mode

theorem Targets.Follows.prepare
    {view : first → second}
    {targets : Targets first}
    {model : Targets second}
    (follows : Targets.Follows view targets model) :
    Action.Follows (Prod.map id view : embedding × first → embedding × second)
      targets.prepare model.prepare := by
  rw [Targets.prepare, Targets.prepare, follows.mode]
  apply Action.Follows.ite
  · apply (follows.ddl.clear.onSecond id).bind
    intro _
    apply (follows.views.clear.onSecond id).bind
    intro _
    exact .pure ()
  · exact .pure ()

theorem Targets.prepare_keeps
    {view : first → second}
    {targets : Targets first}
    (ddl : Store.Keeps view targets.ddl)
    (views : Store.Keeps view targets.views) :
    Action.Keeps (fun world : embedding × first => view world.2) targets.prepare := by
  apply Action.Keeps.ite
  · apply ddl.clear.onSecond.bind
    intro _
    apply views.clear.onSecond.bind
    intro _
    exact .pure ()
  · exact .pure ()

namespace Indexer

variable {view : first → second} {indexer : Indexer embedding first}
variable {model : Indexer embedding second}

/-- Indexers that differ only in their collections do the same if the collections do. -/
theorem run_follows
    (sameEmbedder : indexer.embedder = model.embedder)
    (follows : Targets.Follows view indexer.toTargets model.toTargets)
    (text : String) :
    Action.Follows (Prod.map id view) (indexer.run text) (model.run text) := by
  have branched
      {store : Store first}
      {storeModel : Store second}
      (storeFollows : Store.Follows view store storeModel)
      (batch : Except Error (List Document)) :
      Action.Follows (Prod.map id view) (indexer.branch store batch)
        (model.branch storeModel batch) := by
    rw [branch, branch, follows.mode, sameEmbedder]
    apply (Action.Follows.ofExcept batch).bind
    intro documents
    apply ((Action.Follows.refl (embedBatch model.embedder documents)).onFirst view).bind
    intro embedded
    exact (storeFollows.commit embedded model.mode).onSecond id
  rw [run, run, follows.mode]
  apply (Action.Follows.ofExcept (Manifest.validate text)).bind
  intro manifest
  apply follows.prepare.bind
  intro _
  apply (branched follows.ddl _).bind
  intro ddlDocuments
  apply (branched follows.views _).bind
  intro viewDocuments
  exact .pure _

/-- A run leaves alone what neither of its stores changes. -/
theorem run_keeps
    (ddl : Store.Keeps view indexer.ddl)
    (views : Store.Keeps view indexer.views)
    (text : String) :
    Action.Keeps (fun world => view world.2) (indexer.run text) := by
  have branched
      {store : Store first}
      (keeps : Store.Keeps view store)
      (batch : Except Error (List Document)) :
      Action.Keeps (fun world => view world.2) (indexer.branch store batch) := by
    apply (Action.Keeps.ofExcept batch).bind
    intro documents
    apply (Action.Keeps.onFirst (embedBatch indexer.embedder documents) view).bind
    intro embedded
    exact (keeps.commit embedded indexer.mode).onSecond
  apply (Action.Keeps.ofExcept (Manifest.validate text)).bind
  intro manifest
  apply (Targets.prepare_keeps ddl views).bind
  intro _
  apply (branched ddl _).bind
  intro ddlDocuments
  apply (branched views _).bind
  intro viewDocuments
  exact .pure _

end Indexer

/-- Two separate collections: one for statements and one for the records of views. -/
inductive StorePair where
  /-- Two stores with states of their own. -/
  | apart (ddl views : Backend)
  /-- Two collections of one database. -/
  | shared (ddl views : String) (differ : ddl ≠ views)

namespace StorePair

/-- The state of both collections. -/
abbrev State : StorePair → Type
  | .apart ddl views => ddl.State × views.State
  | .shared _ _ _ => Database

/-- The kind of the store of statements. -/
def ddlBackend : StorePair → Backend
  | .apart ddl _ => ddl
  | .shared ddl _ _ => .database ddl

/-- The kind of the store of records. -/
def viewBackend : StorePair → Backend
  | .apart _ views => views
  | .shared _ views _ => .database views

def ddl : (pair : StorePair) → Store pair.State
  | .apart ddl _ => ddl.store.onFirst
  | .shared ddl _ _ => Database.store ddl

/-- The store of records. -/
def views : (pair : StorePair) → Store pair.State
  | .apart _ views => views.store.onSecond
  | .shared _ views _ => Database.store views

/-- The rows of both collections. -/
def contents : (pair : StorePair) → pair.State → Contents × Contents
  | .apart ddl views => Prod.map ddl.contents views.contents
  | .shared ddl views _ => fun database => (database.contents ddl, database.contents views)

/-- Both stores have a replacing operation of their own. -/
def Swaps (pair : StorePair) : Prop :=
  pair.ddlBackend.Swaps ∧ pair.viewBackend.Swaps

/-- The two collections as the targets of a run. -/
def targets (pair : StorePair) (mode : SyncMode) : Targets pair.State :=
  ⟨pair.ddl, pair.views, mode⟩

/-- The contents of the two collections as the targets of a run. -/
def modelTargets (pair : StorePair) (mode : SyncMode) : Targets (Contents × Contents) :=
  ⟨pair.ddlBackend.model.onFirst, pair.viewBackend.model.onSecond, mode⟩

/-- The indexer over a pair of stores. -/
def indexer
    (pair : StorePair)
    (embedder : Embedder embedding)
    (mode : SyncMode) : Indexer embedding pair.State :=
  ⟨pair.targets mode, embedder⟩

/-- The indexer over the contents of a pair of stores. -/
def model
    (pair : StorePair)
    (embedder : Embedder embedding)
    (mode : SyncMode) : Indexer embedding (Contents × Contents) :=
  ⟨pair.modelTargets mode, embedder⟩

theorem ddl_follows (pair : StorePair) :
    Store.Follows pair.contents pair.ddl pair.ddlBackend.model.onFirst := by
  cases pair with
  | apart ddl views => exact ddl.store_follows.onFirst views.contents
  | shared ddl views differ =>
    exact (Database.store_follows ddl).withSecond (Database.store_keeps differ.symm)

theorem views_follows (pair : StorePair) :
    Store.Follows pair.contents pair.views pair.viewBackend.model.onSecond := by
  cases pair with
  | apart ddl views => exact views.store_follows.onSecond ddl.contents
  | shared ddl views differ =>
    exact (Database.store_follows views).withFirst (Database.store_keeps differ)

/-- The two collections of a run follow their contents. -/
theorem targets_follows (pair : StorePair) (mode : SyncMode) :
    Targets.Follows pair.contents (pair.targets mode) (pair.modelTargets mode) :=
  ⟨pair.ddl_follows, pair.views_follows, rfl⟩

/-- A run over a pair of stores does to their contents what a run over tables does. -/
theorem run_follows
    (pair : StorePair)
    (embedder : Embedder embedding)
    (mode : SyncMode)
    (text : String) :
    Action.Follows (Prod.map id pair.contents) ((pair.indexer embedder mode).run text)
      ((pair.model embedder mode).run text) := by
  have sameEmbedder : (pair.indexer embedder mode).embedder = (pair.model embedder mode).embedder :=
    rfl
  exact Indexer.run_follows sameEmbedder (pair.targets_follows mode) text

end StorePair

end SemanticIndex
