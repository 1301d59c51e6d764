import SemanticIndex.Command.Invocation
import SemanticIndex.Description.Apply
import SemanticIndex.Indexing
import SemanticIndex.Manifest.Writer
import SemanticIndex.Settings
import SemanticIndex.Store.Database

/-!
# Running commands

A command needs little of its surroundings: to read texts, to open and save databases, one
environment variable and the time.  With these it runs in any monad, so the same program runs in a
directory given as a value and in the real one.
-/

namespace SemanticIndex

/-- What a command needs of its surroundings. -/
structure Surroundings (context : Type → Type) where
  readText : String → context (Except FileError String)
  dataset : context (Option String)
  /-- Open the database in a file; a missing file and its directories are made. -/
  openDatabase : String → context (Except Error Database)
  /-- Replace the content of an open database. -/
  saveDatabase : String → Database → context Unit
  /-- The present time as a text. -/
  now : context String

/-- Why a command fails. -/
inductive Failure where
  /-- A file that it needs cannot be read. -/
  | unreadable (path : String) (cause : FileError)
  /-- Its work fails. -/
  | failed (error : Error)
deriving DecidableEq, Inhabited

/-- The wording of a failure; a file error is named once more as its own cause. -/
def Failure.message : Failure → String
  | .unreadable path cause => "cannot read " ++ path ++ "\n\nCaused by:\n    " ++ cause.message
  | .failed (.file cause) =>
    (Error.file cause).message ++ "\n\nCaused by:\n    " ++ cause.message
  | .failed error => error.message

/-- What a call leaves behind. -/
structure Outcome where
  code : Nat
  output : String
  error : Option String
deriving DecidableEq, Inhabited

/-- The JSON form of a document. -/
def Document.toJson (document : Document) : Json :=
  .object [("id", .string document.id), ("content", .string document.content)]

/-- The JSON form of a list of documents. -/
def documentsJson (documents : List Document) : Json :=
  .array (documents.map Document.toJson)

/-- The JSON form of a report with the times of its start and end. -/
def Report.toJson (report : Report) (started finished : String) : Json :=
  .object [
    ("ddl_documents", .integer report.ddlDocuments),
    ("view_documents", .integer report.viewDocuments),
    ("mdl_digest", .string report.digest),
    ("sync_mode", .string report.mode.name),
    ("started_at", .string started),
    ("finished_at", .string finished)]

namespace Settings

/-- The JSON form of the counts of both collections. -/
def countsJson (settings : Settings) (database : Database) : Json :=
  .object [
    ("ddl_collection", .string settings.ddlCollection),
    ("ddl_documents", .integer (database.count settings.ddlCollection)),
    ("view_collection", .string settings.viewCollection),
    ("view_documents", .integer (database.count settings.viewCollection))]

/-- The collaborators of a run over one database. -/
def indexer (settings : Settings) : Indexer Unit Database where
  embedder := (HashEmbedder.mk settings.dimensions).embed
  ddl := Database.store settings.ddlCollection
  views := Database.store settings.viewCollection
  mode := settings.mode

end Settings

/-- A generator that answers every prompt with the same reply. -/
def recordedReply (reply : String) : Generator Unit :=
  fun _ _ => return reply

namespace Surroundings

variable {context : Type → Type} [Monad context]

/-- A step of a command. -/
abbrev Step (context : Type → Type) (result : Type) :=
  ExceptT Failure context result

/-- A step that may fail with an error of the library. -/
def check {result : Type} (value : Except Error result) : Step context result :=
  ExceptT.mk (pure (value.mapError Failure.failed))

/-- Read a file that a command needs. -/
def readFile (surroundings : Surroundings context) (path : String) : Step context String :=
  ExceptT.mk do
    return (← surroundings.readText path).mapError (Failure.unreadable path)

def readManifest (surroundings : Surroundings context) (path : String) :
    Step context Manifest := do
  check (Manifest.validate (← surroundings.readFile path))

/-- Read the settings in a file, with the dataset of the environment. -/
def readSettings (surroundings : Surroundings context) (path : String) :
    Step context Settings := do
  let settings ← check (Settings.ofFile (← surroundings.readText path))
  check (settings.withDataset (← surroundings.dataset))

def openIndex (surroundings : Surroundings context) (settings : Settings) :
    Step context Database :=
  ExceptT.mk do
    return (← surroundings.openDatabase settings.path).mapError Failure.failed

/-- Index a manifest into the database of settings, which is saved even if the run fails. -/
def index (surroundings : Surroundings context) (file settingsFile : String) :
    Step context Json := do
  let settings ← surroundings.readSettings settingsFile
  let database ← surroundings.openIndex settings
  let text ← surroundings.readFile file
  let started ← surroundings.now
  let (result, world) := (settings.indexer.run text).perform ((), database)
  surroundings.saveDatabase settings.path world.2
  let report ← check result
  let finished ← surroundings.now
  return report.toJson started finished

/-- Count the documents in the database of settings. -/
def count (surroundings : Surroundings context) (settingsFile : String) :
    Step context Json := do
  let settings ← surroundings.readSettings settingsFile
  let database ← surroundings.openIndex settings
  return settings.countsJson database

/-- Apply a recorded reply to a manifest. -/
def describe
    (surroundings : Surroundings context)
    (file reply : String)
    (request : DescriptionRequest) : Step context Json := do
  let manifest ← surroundings.readManifest file
  let reply ← surroundings.readFile reply
  let descriptions ← check (((recordedReply reply).describe manifest request).perform ()).1
  return (manifest.describe descriptions).toJson

/-- The JSON value that a command prints. -/
def result (surroundings : Surroundings context) (command : Command) : Step context Json :=
  match command with
  | .compile file => do
    return documentsJson (← check (← surroundings.readManifest file).compile)
  | .views file => do
    return documentsJson (viewDocuments (← surroundings.readManifest file).views)
  | .index file settings => surroundings.index file settings
  | .count settings => surroundings.count settings
  | .describe file reply request => surroundings.describe file reply request

def run (surroundings : Surroundings context) (command : Command) : context Outcome := do
  match ← (surroundings.result command).run with
  | .ok value => return ⟨0, value.indented ++ "\n", none⟩
  | .error failure => return ⟨1, "", some failure.message⟩

/-- The summary of the commands. -/
def summary : String :=
  "Compile MDL schemas into DDL retrieval documents\n\n" ++
  "Usage: mdl-index [-v] <compile|views|index|count|describe> [arguments]\n"

/-- Answer a call with the given arguments. -/
def call (surroundings : Surroundings context) (arguments : List String) : context Outcome :=
  match Invocation.read? arguments with
  | none => return ⟨2, "", none⟩
  | some .version => return ⟨0, "mdl-index 0.1.0\n", none⟩
  | some .help => return ⟨0, summary, none⟩
  | some (.run command) => surroundings.run command

end Surroundings

end SemanticIndex
