import SemanticIndex.Action
import SemanticIndex.Document

/-!
# Embedders

An embedder turns a batch of documents into embedded ones in one call and without waiting.  It may
keep a state of its own between calls, so that the same batch may fare differently each time.
`embedBatch` is the guarded call: an empty batch is not sent, and an answer is accepted only if it
has the ids of the batch in the same order.

A service is an embedder that may take its time.  A batch that is not ready when it is sent has a
ticket, with which the service is polled until the batch is ready or the service fails.
-/

namespace SemanticIndex

/-- The operation of an embedder that never waits, with the given kind of state. -/
abbrev Embedder (state : Type) :=
  List Document → Action state (List EmbeddedDocument)

/-- Accept the answer to a batch if it has the ids of the batch in the same order. -/
def acceptAnswer
    (batch : List Document)
    (embedded : List EmbeddedDocument) : Except Error (List EmbeddedDocument) :=
  if embedded.map (·.id) = batch.map (·.id) then .ok embedded
  else .error (.embedding (.mismatched embedded.length batch.length))

/-- The guarded call of an embedder. -/
def embedBatch
    {state : Type}
    (embedder : Embedder state)
    (batch : List Document) : Action state (List EmbeddedDocument) := do
  if batch.isEmpty then
    return []
  else
    let embedded ← embedder batch
    .ofExcept (acceptAnswer batch embedded)

/-! ## Services -/

/-- A call of a service that gives out the given kind of tickets. -/
inductive Call (ticket : Type) where
  | send (batch : List Document)
  | poll (ticket : ticket)

/-- The response to a call. -/
inductive Response (ticket : Type) where
  | ready (documents : List EmbeddedDocument)
  | waiting (ticket : ticket)

/-- The operation of an embedder that may wait, with the given kinds of state and tickets. -/
abbrev Service (state ticket : Type) :=
  Call ticket → Action state (Response ticket)

/-- An embedder that never waits as a service; it gives out no tickets. -/
def Embedder.service {state : Type} (embedder : Embedder state) : Service state Empty
  | .send batch => return .ready (← embedder batch)
  | .poll ticket => nomatch ticket

end SemanticIndex
