import SemanticIndex.Ddl
import SemanticIndex.Digest.Sha256
import SemanticIndex.Embedding.Embedder
import SemanticIndex.Manifest.Reader
import SemanticIndex.Store.Sync
import SemanticIndex.ViewRecord

/-!
# Indexing

A run reads a manifest and replaces two collections: the compiled statements and the records of
the views.  Nothing is touched unless the manifest is valid.  In the clearing mode both
collections are cleared before either branch starts; each branch then compiles, embeds and commits
its batch, and the first error ends the run.

The embedder of an indexer never waits, so the branch of the statements ends before that of the
records starts.  With a service the branches may overtake each other; a joint indexer runs them in
turns.
-/

namespace SemanticIndex

/-- The two collections that a run replaces, and how. -/
structure Targets (stores : Type) where
  ddl : Store stores
  views : Store stores
  mode : SyncMode

/-- Clear both collections in the mode that asks for it. -/
def Targets.prepare
    {embedding stores : Type}
    (targets : Targets stores) : Action (embedding × stores) Unit := do
  if targets.mode = .clearThenWrite then
    let _ ← targets.ddl.clear.onSecond
    let _ ← targets.views.clear.onSecond

/-- The collaborators of a run: two collections and an embedder that never waits. -/
structure Indexer (embedding stores : Type) extends Targets stores where
  /-- The embedder of both branches. -/
  embedder : Embedder embedding

/-- What a successful run did. -/
structure Report where
  ddlDocuments : Nat
  viewDocuments : Nat
  /-- The SHA-256 digest of the manifest's text, in hexadecimal digits. -/
  digest : String
  mode : SyncMode
deriving DecidableEq, Inhabited

namespace Indexer

variable {embedding stores : Type}

/-- Embed a compiled batch and commit it to a collection. -/
def branch
    (indexer : Indexer embedding stores)
    (store : Store stores)
    (batch : Except Error (List Document)) : Action (embedding × stores) Nat := do
  let documents ← .ofExcept batch
  let embedded ← (embedBatch indexer.embedder documents).onFirst
  (store.commit embedded indexer.mode).onSecond

/-- Index the text of a manifest; the records have to wait for the statements to be committed. -/
def run
    (indexer : Indexer embedding stores)
    (text : String) : Action (embedding × stores) Report := do
  let manifest ← .ofExcept (Manifest.validate text)
  indexer.prepare
  let ddlDocuments ← indexer.branch indexer.ddl manifest.compile
  let viewDocuments ← indexer.branch indexer.views (.ok (viewDocuments manifest.views))
  return ⟨ddlDocuments, viewDocuments, Sha256.hexadecimal (Sha256.ofText text), indexer.mode⟩

end Indexer

end SemanticIndex
