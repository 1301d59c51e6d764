import SemanticIndex.Indexing

/-!
# Joint indexing

With a service a run has two branches that are polled in turns.  A turn takes its branch as far as
it gets without waiting: it sends the batch or asks for it again, and commits it when it is ready.
Both branches have a first turn, that of the statements before that of the records, and the
branches that wait then take turns in any order.  The first error ends the run, and a branch that
waits is given up with its ticket.
-/

namespace SemanticIndex

/-- How far a branch is. -/
inductive Branch (ticket : Type) where
  /-- It has not had a turn; its batch may not have been compiled. -/
  | idle (batch : Except Error (List Document))
  /-- Its batch has been sent and is not ready. -/
  | waiting (batch : List Document) (ticket : ticket)
  /-- It has committed its batch and counted the documents. -/
  | committed (documents : List EmbeddedDocument) (count : Nat)

/-- What a branch has to do after it was polled. -/
inductive Progress (ticket : Type) where
  | stay (branch : Branch ticket)
  | commit (documents : List EmbeddedDocument)

namespace Branch

variable {embedding ticket : Type}

/-- Go on with the response to a batch. -/
def receive (batch : List Document) : Response ticket → Except Error (Progress ticket)
  | .ready documents => (acceptAnswer batch documents).map .commit
  | .waiting ticket => .ok (.stay (.waiting batch ticket))

/-- Send the batch of a branch or ask for it again; an empty batch is not sent. -/
def poll (service : Service embedding ticket) :
    Branch ticket → Action embedding (Progress ticket)
  | .idle batch => do
    let documents ← .ofExcept batch
    if documents.isEmpty then
      return .commit []
    else
      let response ← service (.send documents)
      .ofExcept (receive documents response)
  | .waiting batch ticket => do
    let response ← service (.poll ticket)
    .ofExcept (receive batch response)
  | .committed documents count => return .stay (.committed documents count)

/-- Poll a branch and commit its batch to a collection if it is ready. -/
def advance
    {stores : Type}
    (service : Service embedding ticket)
    (store : Store stores)
    (mode : SyncMode)
    (branch : Branch ticket) : Action (embedding × stores) (Branch ticket) := do
  match ← (branch.poll service).onFirst with
  | .stay next => return next
  | .commit documents =>
    let count ← (store.commit documents mode).onSecond
    return .committed documents count

end Branch

/-- The two branches of a run. -/
structure Branches (ticket : Type) where
  ddl : Branch ticket
  views : Branch ticket

/-- Whose turn it is. -/
inductive Turn where
  | ddl
  | views
deriving DecidableEq, Inhabited

/-- The turns of a run, both first turns included. -/
def Turn.schedule (later : List Turn) : List Turn :=
  .ddl :: .views :: later

namespace Branches

variable {ticket : Type}

/-- The branches of a run over a manifest before their first turns. -/
def start (manifest : Manifest) : Branches ticket :=
  ⟨.idle manifest.compile, .idle (.ok (viewDocuments manifest.views))⟩

/-- The branch whose turn it is. -/
def of (branches : Branches ticket) : Turn → Branch ticket
  | .ddl => branches.ddl
  | .views => branches.views

/-- The branches after a turn, with what has become of the one whose turn it was. -/
def set (branches : Branches ticket) (turn : Turn) (next : Branch ticket) : Branches ticket :=
  match turn with
  | .ddl => { branches with ddl := next }
  | .views => { branches with views := next }

end Branches

/-- The collection of the branch whose turn it is. -/
def Targets.of {stores : Type} (targets : Targets stores) : Turn → Store stores
  | .ddl => targets.ddl
  | .views => targets.views

/-- The collaborators of a run whose branches may wait. -/
structure JointIndexer (embedding ticket stores : Type) extends Targets stores where
  /-- The service of both branches. -/
  service : Service embedding ticket

namespace JointIndexer

variable {embedding ticket stores : Type}

/-- A turn of one branch. -/
def take
    (indexer : JointIndexer embedding ticket stores)
    (branches : Branches ticket)
    (turn : Turn) : Action (embedding × stores) (Branches ticket) := do
  let next ← (branches.of turn).advance indexer.service (indexer.of turn) indexer.mode
  return branches.set turn next

/-- The report on branches that have both committed their batches. -/
def report?
    (indexer : JointIndexer embedding ticket stores)
    (text : String) : Branches ticket → Option Report
  | ⟨.committed _ ddlDocuments, .committed _ viewDocuments⟩ =>
    some ⟨ddlDocuments, viewDocuments, Sha256.hexadecimal (Sha256.ofText text), indexer.mode⟩
  | _ => none

/--
Index the text of a manifest, with the given turns after the first turn of either branch.  There is
no report when a branch still waits after the last turn.
-/
def run
    (indexer : JointIndexer embedding ticket stores)
    (text : String)
    (later : List Turn) : Action (embedding × stores) (Option Report) := do
  let manifest ← .ofExcept (Manifest.validate text)
  indexer.prepare
  let branches ← (Turn.schedule later).foldlM indexer.take (.start manifest)
  return indexer.report? text branches

end JointIndexer

/-- An indexer as a joint one whose branches never wait. -/
def Indexer.joint
    {embedding stores : Type}
    (indexer : Indexer embedding stores) : JointIndexer embedding Empty stores where
  toTargets := indexer.toTargets
  service := indexer.embedder.service

end SemanticIndex
