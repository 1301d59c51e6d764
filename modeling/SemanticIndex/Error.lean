import SemanticIndex.Json.Writer
import SemanticIndex.Text.Quoted

/-!
# Errors and their messages

Every failure is a cause with the data that its message shows; the wording is given once, by the
`message` functions.
-/

namespace SemanticIndex

/-- What a shape check found in place of what it expected. -/
inductive Finding where
  | null
  | bool (value : Bool)
  | integer (value : Int)
  | fraction (value : Binary64)
  | string (value : String)
  | array
  | object
deriving DecidableEq, Inhabited

namespace Finding

/-- The finding that a JSON value makes. -/
def ofJson : Json → Finding
  | .null => .null
  | .bool value => .bool value
  | .integer value => .integer value
  | .fraction value => .fraction value
  | .string value => .string value
  | .array _ => .array
  | .object _ => .object

/-- The wording of a finding. -/
def message : Finding → String
  | .null => "null"
  | .bool value => "boolean `" ++ (if value then "true" else "false") ++ "`"
  | .integer value => "integer `" ++ String.ofList (Json.writeInteger value) ++ "`"
  | .fraction value => "floating point `" ++ String.ofList (Json.writeFraction value) ++ "`"
  | .string value => "string " ++ Text.quoted value
  | .array => "sequence"
  | .object => "map"

end Finding

/-- What a shape check expects. -/
inductive Expected where
  | string
  | array
  /-- An object of any keys. -/
  | object
  | bool
  /-- An array of two elements. -/
  | pair
  /-- An object that describes a named entity. -/
  | entity (name : String)
deriving DecidableEq, Inhabited

/-- The wording of an expectation. -/
def Expected.message : Expected → String
  | .string => "a string"
  | .array => "a sequence"
  | .object => "a map"
  | .bool => "a boolean"
  | .pair => "an array of length 2"
  | .entity name => "struct " ++ name

/-- How a JSON object departs from the shape of a manifest. -/
inductive SchemaError where
  | invalidType (found : Finding) (expected : Expected)
  | missingField (key : String)
  /-- A pair has fewer than two elements. -/
  | tooShort (length : Nat)
  /-- A pair has more than two elements. -/
  | tooLong (length : Nat)
deriving DecidableEq, Inhabited

/-- The wording of a departure from the manifest's shape. -/
def SchemaError.message : SchemaError → String
  | .invalidType found expected =>
    "invalid type: " ++ found.message ++ ", expected " ++ expected.message
  | .missingField key => "missing field `" ++ key ++ "`"
  | .tooShort length =>
    "invalid length " ++ toString length ++ ", expected " ++ Expected.pair.message
  | .tooLong length =>
    "invalid length " ++ toString length ++ ", expected fewer elements in array"

/-- Why a relationship gives no foreign key. -/
inductive ResolutionFailure where
  | unknownModel (name : String)
  | missingPrimaryKey (name : String)
  /-- The condition does not equate two dotted references. -/
  | malformedCondition (condition : String)
  /-- The condition names other tables than the relationship. -/
  | tableMismatch (left right first second : String)
deriving DecidableEq, Inhabited

/-- The wording of a resolution failure. -/
def ResolutionFailure.message : ResolutionFailure → String
  | .unknownModel name => "model '" ++ name ++ "' is not defined"
  | .missingPrimaryKey name => "model '" ++ name ++ "' has no primary key"
  | .malformedCondition condition =>
    "condition '" ++ condition ++ "' is not of the form 'a.col = b.col'"
  | .tableMismatch left right first second =>
    "condition references (" ++ left ++ ", " ++ right ++ ") but the relationship joins (" ++
      first ++ ", " ++ second ++ ")"

/-- Why a text is no JSON object. -/
inductive InputError where
  | unreadable
  | notAnObject
deriving DecidableEq, Inhabited

/-- Why a batch has no embeddings. -/
inductive EmbeddingError where
  /-- The embedder gave up. -/
  | refused (reason : String)
  /-- The embedder lost, added or renamed documents. -/
  | mismatched (returned batch : Nat)
deriving DecidableEq, Inhabited

/-- The wording of an embedding error. -/
def EmbeddingError.message : EmbeddingError → String
  | .refused reason => reason
  | .mismatched returned batch =>
    "embedder returned " ++ toString returned ++ " documents for a batch of " ++
      toString batch ++ ", or changed their ids"

/-- Why a store did not do its work. -/
inductive StoreError where
  | duplicateIds (ids : List String)
  /-- The stored bytes of an embedding are no whole number of words. -/
  | damagedEmbedding (id : String) (bytes : Nat)
  | notADatabase
  | cannotOpen (path : String)
  | cannotOpenJournal
  /-- The path of the database has a NUL character at a byte position. -/
  | nulInPath (position : Nat)
  | refused (operation : String)
deriving DecidableEq, Inhabited

/-- The wording of a store error. -/
def StoreError.message : StoreError → String
  | .duplicateIds ids => "duplicate document ids: " ++ String.intercalate ", " ids
  | .damagedEmbedding id bytes =>
    "embedding for document " ++ id ++ " has " ++ toString bytes ++
      " bytes, not a whole number of f32"
  | .notADatabase => "file is not a database"
  | .cannotOpen path => "unable to open database file: " ++ path
  | .cannotOpenJournal => "unable to open database file"
  | .nulInPath position =>
    "nul byte found in provided data at position: " ++ toString position
  | .refused operation => operation ++ " refused"

/-- Why settings are not accepted. -/
inductive SettingsError where
  /-- The text does not describe settings. -/
  | unreadable
  /-- Embeddings would have no dimension. -/
  | noDimensions
  /-- Both collections have one name. -/
  | sharedCollection (name : String)
deriving DecidableEq, Inhabited

/-- Why a file or directory could not be used. -/
inductive FileError where
  | notFound
  | isDirectory
  /-- Something other than a directory is on the way. -/
  | notDirectory
  /-- Something other than a directory has the name. -/
  | exists
  /-- A name on the way, or the whole path, is too long. -/
  | nameTooLong
  /-- The path has a NUL character. -/
  | nulInPath
  | notText
deriving DecidableEq, Inhabited

/-- The wording of a file error. -/
def FileError.message : FileError → String
  | .notFound => "No such file or directory (os error 2)"
  | .isDirectory => "Is a directory (os error 21)"
  | .notDirectory => "Not a directory (os error 20)"
  | .exists => "File exists (os error 17)"
  | .nameTooLong => "File name too long (os error 36)"
  | .nulInPath => "file name contained an unexpected NUL byte"
  | .notText => "stream did not contain valid UTF-8"

/-- Any failure of the library. -/
inductive Error where
  /-- The manifest text is no JSON object. -/
  | malformedInput (cause : InputError)
  /-- The manifest does not have the shape of one. -/
  | schema (cause : SchemaError)
  /-- A relationship gives no foreign key for a model. -/
  | resolution (model relationship : String) (reason : ResolutionFailure)
  | embedding (cause : EmbeddingError)
  | store (cause : StoreError)
  | settings (cause : SettingsError)
  | generation (reason : String)
  | file (cause : FileError)
deriving DecidableEq, Inhabited

/-- The wording of an error; unreadable text has no further explanation. -/
def Error.message : Error → String
  | .malformedInput .unreadable => "malformed input"
  | .malformedInput .notAnObject =>
    "malformed input: MDL must be a JSON object at the top level"
  | .schema cause => "schema error: " ++ cause.message
  | .resolution model relationship reason =>
    "cannot resolve relationship '" ++ relationship ++ "' for model '" ++ model ++ "': " ++
      reason.message
  | .embedding cause => "embedding error: " ++ cause.message
  | .store cause => "store error: " ++ cause.message
  | .settings .unreadable => "config error"
  | .settings .noDimensions => "config error: embedding.dimensions must be at least 1"
  | .settings (.sharedCollection name) =>
    "config error: ddl and view collections must differ (both are '" ++ name ++ "')"
  | .generation reason => "generation error: " ++ reason
  | .file cause => "io error: " ++ cause.message

end SemanticIndex
