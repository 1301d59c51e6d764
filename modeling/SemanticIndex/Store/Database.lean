import SemanticIndex.Store.Blob
import SemanticIndex.Store.Memory

/-!
# Databases

A database keeps any number of named collections in one table, keyed by the collection and the
document id.  Vectors are stored as bytes and decoded only when documents are read, so a damaged
vector fails listing and fetching but neither counting, deleting nor overwriting.
-/

namespace SemanticIndex

/-- The stored part of a document besides its key. -/
structure Row where
  content : String
  /-- The bytes of the vector. -/
  blob : List UInt8
deriving DecidableEq, Inhabited

namespace Row

def ofDocument (document : EmbeddedDocument) : Row :=
  ⟨document.content, Blob.encode document.embedding⟩

/-- The document with an id that a row holds. -/
def decode (id : String) (row : Row) : Except Error EmbeddedDocument :=
  match Blob.decode? row.blob with
  | some embedding => .ok ⟨id, row.content, embedding⟩
  | none => .error (.store (.damagedEmbedding id row.blob.length))

end Row

/-- Decide whether a character is skipped in front of a number. -/
def isLeadingSpace (character : Char) : Bool :=
  character == ' ' || (0x09 ≤ character.toNat && character.toNat ≤ 0x0D)

/-- The number of the decimal digits that a list of characters starts with, zero without any. -/
def leadingDigits (characters : List Char) : Nat :=
  (characters.takeWhile Char.isDigit).foldl
    (fun total digit => 10 * total + (digit.toNat - 48)) 0

/--
The integer that an id starts with: after spaces and an optional sign its longest run of digits,
zero without digits, within the signed 64-bit range.
-/
def leadingInteger (id : String) : Int :=
  match id.toList.dropWhile isLeadingSpace with
  | '-' :: rest => max (-(leadingDigits rest : Int)) Int64.minValue.toInt
  | '+' :: rest => min (leadingDigits rest : Int) Int64.maxValue.toInt
  | characters => min (leadingDigits characters : Int) Int64.maxValue.toInt

/-- Decide whether an id does not come after another in the listing of a collection. -/
def integerOrder (one other : String) : Bool :=
  leadingInteger one < leadingInteger other ||
    (leadingInteger one == leadingInteger other && one ≤ other)

/-- A table of documents by collection and id. -/
structure Database where
  /-- The rows by collection and id. -/
  rows : Table (String × String) Row
deriving Inhabited

namespace Database

/-- The database without rows. -/
def empty : Database :=
  ⟨.empty⟩

/-- The rows of a collection by id. -/
def collection (database : Database) (name : String) : List (String × Row) :=
  (database.rows.rows.filter fun row => row.1.1 == name).map fun row => (row.1.2, row.2)

/-- The rows of a collection in listing order. -/
def sorted (database : Database) (name : String) : List (String × Row) :=
  (database.collection name).mergeSort fun one other => integerOrder one.1 other.1

/-- The documents of a collection in listing order; the first damaged one is an error. -/
def list (database : Database) (name : String) : Except Error (List EmbeddedDocument) :=
  (database.sorted name).mapM fun row => row.2.decode row.1

/-- The document of a collection with an id. -/
def get?
    (database : Database)
    (name id : String) : Except Error (Option EmbeddedDocument) :=
  match database.rows.find? (name, id) with
  | some row => (row.decode id).map some
  | none => .ok none

/-- Delete the row of an id. -/
def delete (name : String) (database : Database) (id : String) : Database :=
  ⟨database.rows.erase (name, id)⟩

/-- Insert a document, in place of one with the same id. -/
def insertOrReplace (name : String) (database : Database) (document : EmbeddedDocument) : Database :=
  ⟨database.rows.insert (name, document.id) (.ofDocument document)⟩

/-- Insert the documents whose ids are free when their turn comes, and count the new rows. -/
def insertNew (name : String) (database : Database) : List EmbeddedDocument → Nat × Database
  | [] => (0, database)
  | document :: rest =>
    if database.rows.contains (name, document.id) then insertNew name database rest
    else
      let (count, final) := insertNew name (database.insertOrReplace name document) rest
      (count + 1, final)

/-- The number of documents of a collection. -/
def count (database : Database) (name : String) : Nat :=
  (database.collection name).length

/-- Remove all documents of a collection. -/
def drop (name : String) (database : Database) : Database :=
  ⟨database.rows.keep fun key => key.1 != name⟩

/-- Write documents under a policy; the failing policy lists the collection first. -/
def write
    (name : String)
    (database : Database)
    (documents : List EmbeddedDocument)
    (policy : DuplicatePolicy) : Except Error Nat × Database :=
  let overwritten := documents.foldl (insertOrReplace name) database
  match policy with
  | .overwrite => (.ok documents.length, overwritten)
  | .skip =>
    let (count, final) := insertNew name database documents
    (.ok count, final)
  | .fail =>
    match database.list name with
    | .error error => (.error error, database)
    | .ok listed =>
      let ids := listed.map (·.id)
      let collisions := collidingIds ids.contains [] (documents.map (·.id))
      if collisions.isEmpty then (.ok documents.length, overwritten)
      else (.error (.store (.duplicateIds collisions)), database)

/-- The operations on a collection; replacing is atomic and counts the rows it writes. -/
def store (name : String) : Store Database where
  count := .reading fun database => .ok (database.count name)
  delete ids := .ofFunction fun database => (.ok (), ids.foldl (delete name) database)
  write documents policy := .ofFunction fun database => write name database documents policy
  replaceAll documents := .ofFunction fun database =>
    (.ok documents.length, documents.foldl (insertOrReplace name) (drop name database))

/-- Overwrite the stored bytes of a vector and count the rows that changed. -/
def setBlob
    (name id : String)
    (blob : List UInt8)
    (database : Database) : Nat × Database :=
  match database.rows.find? (name, id) with
  | some row => (1, ⟨database.rows.insert (name, id) ⟨row.content, blob⟩⟩)
  | none => (0, database)

end Database

end SemanticIndex
