import SemanticIndex.Embedding.Hashing
import SemanticIndex.Store.Sync
import SemanticIndex.Toml.Reader

/-!
# Settings

Settings say where the database is, how its two collections are called, how long vectors are and
how collections are replaced.  They are read from TOML, where every key is optional; a dataset
name may then replace the name of the first collection.  Accepted settings have at least one
dimension and two different collections.
-/

namespace SemanticIndex

/-- How an index is kept. -/
structure Settings where
  path : String
  ddlCollection : String
  viewCollection : String
  dimensions : Nat
  mode : SyncMode
deriving DecidableEq, Inhabited

namespace Settings

/-- The settings when nothing is said. -/
def default : Settings where
  path := ".mdl/index.db"
  ddlCollection := "Document"
  viewCollection := "view_questions"
  dimensions := HashEmbedder.defaultDimensions
  mode := .clearThenWrite

/-- The environment variable that names a dataset. -/
def datasetVariable : String := "MDL_INDEX_DATASET"

/-- Accept settings that have a dimension and two different collections. -/
def check (settings : Settings) : Except Error Settings :=
  if settings.dimensions = 0 then .error (.settings .noDimensions)
  else if settings.ddlCollection = settings.viewCollection then
    .error (.settings (.sharedCollection settings.ddlCollection))
  else .ok settings

/--
The members of a group of settings: a table by its keys, or an array by the given order of keys.
A date or time has no members.
-/
def members? (keys : List String) : Toml.Item → Option Toml.Entries
  | .table _ entries => some entries
  | .inlineTable entries => some entries
  | .array elements => some (keys.zip elements)
  | .tables rows => some (keys.zip (rows.map (Toml.Item.table .header)))
  | .moment => some []
  | _ => none

/-- The group of settings under a key; an absent one has no members. -/
def group? (entries : Toml.Entries) (key : String) (keys : List String) : Option Toml.Entries :=
  match entries.get? key with
  | some item => members? keys item
  | none => some []

/-- The value of a setting, or its default when the key is absent. -/
def valueD?
    {value : Type}
    (entries : Toml.Entries)
    (key : String)
    (absent : value)
    (read : Toml.Item → Option value) : Option value :=
  match entries.get? key with
  | some item => read item
  | none => some absent

def string? : Toml.Item → Option String
  | .string value => some value
  | _ => none

/-- A setting that is a natural number. -/
def natural? : Toml.Item → Option Nat
  | .integer value => if 0 ≤ value then some value.toNat else none
  | _ => none

/-- Decide whether an item is a table or an array without content. -/
def isEmptyGroup : Toml.Item → Bool
  | .table _ entries => entries.isEmpty
  | .inlineTable entries => entries.isEmpty
  | .array elements => elements.isEmpty
  | .tables rows => rows.isEmpty
  | _ => false

/-- The only key of a table, if its item has no content. -/
def onlyKey? : Toml.Entries → Option String
  | [(key, item)] => if isEmptyGroup item then some key else none
  | _ => none

/-- A mode by its name, which may also be the only key of a table. -/
def mode? : Toml.Item → Option SyncMode
  | .string name => SyncMode.ofName? name
  | .table _ entries => (onlyKey? entries).bind SyncMode.ofName?
  | .inlineTable entries => (onlyKey? entries).bind SyncMode.ofName?
  | _ => none

/-- The settings that a document describes; unknown keys do not matter. -/
def ofEntries? (entries : Toml.Entries) : Option Settings := do
  let store ← group? entries "store" ["path", "ddl_collection", "view_collection"]
  let path ← valueD? store "path" default.path string?
  let ddlCollection ← valueD? store "ddl_collection" default.ddlCollection string?
  let viewCollection ← valueD? store "view_collection" default.viewCollection string?
  let embedding ← group? entries "embedding" ["dimensions"]
  let dimensions ← valueD? embedding "dimensions" default.dimensions natural?
  let sync ← group? entries "sync" ["mode"]
  let mode ← valueD? sync "mode" default.mode mode?
  some ⟨path, ddlCollection, viewCollection, dimensions, mode⟩

/-- Read settings from TOML. -/
def ofToml (text : String) : Except Error Settings :=
  match (Toml.read? text).bind ofEntries? with
  | some settings => settings.check
  | none => .error (.settings .unreadable)

/--
Read settings from what was found of a file.  They are the default when the path leads nowhere,
and an error when what it leads to is no text.
-/
def ofFile (content : Except FileError String) : Except Error Settings :=
  match content with
  | .ok text => ofToml text
  | .error .isDirectory => .error (.file .isDirectory)
  | .error .notText => .error (.file .notText)
  | .error _ => .ok default

/-- Replace the first collection by a named dataset; a blank name does not count. -/
def withDataset (settings : Settings) (dataset : Option String) : Except Error Settings :=
  match dataset with
  | some name =>
    if name.toList.all Text.isBlank then .ok settings
    else { settings with ddlCollection := name }.check
  | none => .ok settings

/-- Append a relative path to a base path; an absolute path stays as it is. -/
def joinPath (base path : String) : String :=
  if path.toList.head? = some '/' || base = "" then path
  else if base.toList.getLast? = some '/' then base ++ path
  else base ++ "/" ++ path

/-- The path of the database, seen from a base directory. -/
def storePath (settings : Settings) (base : String) : String :=
  joinPath base settings.path

end Settings

end SemanticIndex
