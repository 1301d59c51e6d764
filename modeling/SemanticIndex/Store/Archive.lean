import SemanticIndex.Digest.Sha256
import SemanticIndex.Json.Reader
import SemanticIndex.Json.Writer
import SemanticIndex.Store.Database

/-!
# Database files

A database is kept in a file as a JSON array with one array for each row: the collection, the id,
the content and the bytes of the vector in hexadecimal digits.  A file of at most one byte is a
database without rows.
-/

namespace SemanticIndex.Database

/-- The JSON form of a row. -/
def rowJson (row : (String × String) × Row) : Json :=
  .array [.string row.1.1, .string row.1.2, .string row.2.content,
    .string (Sha256.hexadecimal row.2.blob)]

/-- The text of a database file. -/
def archive (database : Database) : String :=
  (Json.array (database.rows.rows.map rowJson)).compact

/-- The bytes that pairs of hexadecimal digits spell. -/
def readBytes? : List Char → Option (List UInt8)
  | [] => some []
  | high :: low :: rest => do
    let byte := 16 * (← Json.hexDigit? high) + (← Json.hexDigit? low)
    some (UInt8.ofNat byte :: (← readBytes? rest))
  | [_] => none

/-- Add the row of a JSON form to a database. -/
def addRow? (database : Database) (row : Json) : Option Database :=
  match row with
  | .array [.string collection, .string id, .string content, .string blob] => do
    let bytes ← readBytes? blob.toList
    some ⟨database.rows.insert (collection, id) ⟨content, bytes⟩⟩
  | _ => none

/-- The database in the text of a file. -/
def ofArchive? (text : String) : Option Database :=
  if text.utf8ByteSize ≤ 1 then some empty
  else
    match Json.read? text with
    | some (.array rows) => rows.foldlM addRow? empty
    | _ => none

end SemanticIndex.Database
