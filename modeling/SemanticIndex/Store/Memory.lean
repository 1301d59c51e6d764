import SemanticIndex.Store.Interface
import SemanticIndex.Store.Table

/-!
# Stores in memory

A store in memory is a table of documents by id.  It lists them by the number that their id
spells, ids that spell none behind the others, and by the id itself where the numbers agree.
-/

namespace SemanticIndex

/-- The stored part of a document besides its id. -/
structure Entry where
  content : String
  embedding : Embedding
deriving DecidableEq, Inhabited

/-- The document with an id and a stored entry. -/
def Entry.document (id : String) (entry : Entry) : EmbeddedDocument :=
  ⟨id, entry.content, entry.embedding⟩

/-- The stored entry of a document. -/
def EmbeddedDocument.entry (document : EmbeddedDocument) : Entry :=
  ⟨document.content, document.embedding⟩

/-- The number that decimal digits spell, if there are digits and nothing else. -/
def decimalValue? (characters : List Char) : Option Nat :=
  if characters.isEmpty || !characters.all Char.isDigit then none
  else some (characters.foldl (fun total digit => 10 * total + (digit.toNat - 48)) 0)

/-- The number that orders an id: an unsigned 64-bit decimal, or the greatest such number. -/
def positionOf (id : String) : Nat :=
  let digits :=
    match id.toList with
    | '+' :: rest => rest
    | characters => characters
  match decimalValue? digits with
  | some value => if value < UInt64.size then value else UInt64.size - 1
  | none => UInt64.size - 1

/-- Decide whether an id does not come after another in the listing of a store in memory. -/
def positionOrder (one other : String) : Bool :=
  positionOf one < positionOf other || (positionOf one == positionOf other && one ≤ other)

/-- A store in memory. -/
structure Memory where
  documents : Table String Entry
deriving Inhabited

namespace Memory

/-- The store without documents. -/
def empty : Memory :=
  ⟨.empty⟩

def get? (memory : Memory) (id : String) : Option EmbeddedDocument :=
  (memory.documents.find? id).map (Entry.document id)

/-- All documents in listing order. -/
def list (memory : Memory) : List EmbeddedDocument :=
  (memory.documents.rows.mergeSort fun one other => positionOrder one.1 other.1).map
    fun row => Entry.document row.1 row.2

/-- Remove a document. -/
def erase (memory : Memory) (id : String) : Memory :=
  ⟨memory.documents.erase id⟩

/-- Put a document in, in place of one with the same id. -/
def put (memory : Memory) (document : EmbeddedDocument) : Memory :=
  ⟨memory.documents.insert document.id document.entry⟩

/-- Decide whether an id is taken. -/
def contains (memory : Memory) (id : String) : Bool :=
  memory.documents.contains id

/-- Put in the documents whose ids are free when their turn comes, and count them. -/
def putNew (memory : Memory) : List EmbeddedDocument → Nat × Memory
  | [] => (0, memory)
  | document :: rest =>
    if memory.contains document.id then putNew memory rest
    else
      let (count, final) := putNew (memory.put document) rest
      (count + 1, final)

/-- Put in all documents, one after the other. -/
def putAll (memory : Memory) (documents : List EmbeddedDocument) : Memory :=
  documents.foldl put memory

/-- Write documents under a policy. -/
def write
    (memory : Memory)
    (documents : List EmbeddedDocument)
    (policy : DuplicatePolicy) : Except Error Nat × Memory :=
  match policy with
  | .overwrite => (.ok documents.length, memory.putAll documents)
  | .skip =>
    let (count, final) := memory.putNew documents
    (.ok count, final)
  | .fail =>
    let collisions := collidingIds memory.contains [] (documents.map (·.id))
    if collisions.isEmpty then (.ok documents.length, memory.putAll documents)
    else (.error (.store (.duplicateIds collisions)), memory)

/-- The operations of a store in memory; replacing is atomic and counts distinct ids. -/
def store : Store Memory where
  count := .reading fun memory => .ok memory.documents.size
  delete ids := .ofFunction fun memory => (.ok (), ids.foldl erase memory)
  write documents policy := .ofFunction fun memory => memory.write documents policy
  replaceAll documents := .ofFunction fun _ =>
    let replacement := Memory.empty.putAll documents
    (.ok replacement.documents.size, replacement)

end Memory

end SemanticIndex
