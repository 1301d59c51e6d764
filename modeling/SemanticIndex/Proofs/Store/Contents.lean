import SemanticIndex.Proofs.Simulation
import SemanticIndex.Store.Database

/-!
# Contents of stores

What a store keeps of a collection is a table of rows by id.  The operations on such tables make
up a store of their own, which is all that can be said of a store's work: the other stores follow
it under the view that takes their state to its rows.
-/

namespace SemanticIndex

/-- The rows of a collection by id. -/
abbrev Contents :=
  Table String Row

namespace Contents

/-- The document with an id, as it is read back. -/
def read (contents : Contents) (id : String) : Except Error (Option EmbeddedDocument) :=
  match contents.find? id with
  | some row => (row.decode id).map some
  | none => .ok none

/-- The documents in listing order; the first damaged one is an error. -/
def list (contents : Contents) : Except Error (List EmbeddedDocument) :=
  (contents.rows.mergeSort fun one other => integerOrder one.1 other.1).mapM
    fun row => row.2.decode row.1

/-- Put a document in, in place of one with the same id. -/
def put (contents : Contents) (document : EmbeddedDocument) : Contents :=
  contents.insert document.id (.ofDocument document)

/-- Put a document in unless its id is taken. -/
def putNew (contents : Contents) (document : EmbeddedDocument) : Contents :=
  if contents.contains document.id then contents else contents.put document

/-- The contents of a collection into which documents are put one after the other. -/
def ofDocuments (documents : List EmbeddedDocument) : Contents :=
  documents.foldl put .empty

/-- Write documents under a policy; the failing policy lists the collection first. -/
def write
    (contents : Contents)
    (documents : List EmbeddedDocument)
    (policy : DuplicatePolicy) : Except Error Nat × Contents :=
  match policy with
  | .overwrite => (.ok documents.length, documents.foldl put contents)
  | .skip =>
    let final := documents.foldl putNew contents
    (.ok (final.size - contents.size), final)
  | .fail =>
    match contents.list with
    | .error error => (.error error, contents)
    | .ok listed =>
      let ids := listed.map (·.id)
      let collisions := collidingIds ids.contains [] (documents.map (·.id))
      if collisions.isEmpty then (.ok documents.length, documents.foldl put contents)
      else (.error (.store (.duplicateIds collisions)), contents)

/-- The operations on a table of rows; `replaced` is what replacing says it has written. -/
def store (replaced : List EmbeddedDocument → Nat) : Store Contents where
  count := .reading fun contents => .ok contents.size
  delete ids := .ofFunction fun contents => (.ok (), ids.foldl Table.erase contents)
  write documents policy := .ofFunction fun contents => contents.write documents policy
  replaceAll documents := .ofFunction fun _ => (.ok (replaced documents), ofDocuments documents)

end Contents

end SemanticIndex
