import SemanticIndex.Command.Surroundings

/-!
# Directories as values

A directory holds texts, databases and further directories, each under the names that lead to it.
Commands run in it as they would run in a directory of a file system: names are followed one
after the other, and opening a database makes the directories on the way.

Names have at most 255 bytes and paths at most 4095.  A database keeps a journal beside it, whose
name is eight bytes longer; when that is too long, the failure shows once the database is written.
-/

namespace SemanticIndex

/-- What a path leads to. -/
inductive Node where
  | text (content : String)
  | database (content : Database)
  | directory
deriving Inhabited

/-- The names that lead to a node. -/
abbrev Location := List String

/-- A directory with all that is in it. -/
structure Directory where
  /-- The nodes by their location. -/
  nodes : Table Location Node
  dataset : Option String
  /-- The present time as a text. -/
  time : String
deriving Inhabited

namespace Directory

/-- The name of the root of absolute paths. -/
def root : String := "/"

/-- The names on a path, which may be empty or dots. -/
def names (path : String) : List String :=
  match path.toList with
  | '/' :: rest => root :: (rest.splitOn '/').map String.ofList
  | characters => (characters.splitOn '/').map String.ofList

def above (location : Location) : Location :=
  match location.getLast? with
  | none => [".."]
  | some last =>
    if last = ".." then location ++ [".."]
    else if last = root then location
    else location.dropLast

/-- The node at a location; the place itself, those above it and the root are directories. -/
def node? (directory : Directory) (location : Location) : Option Node :=
  if location.all (· = "..") || location = [root] then some .directory
  else directory.nodes.find? location

/-- The greatest number of bytes of a name. -/
def nameLimit : Nat := 255

/-- The greatest number of bytes of a path. -/
def pathLimit : Nat := 4095

/-- Decide whether a path or name has a NUL character. -/
def hasNul (path : String) : Bool :=
  path.toList.contains '\x00'

/-- The byte position of the first NUL character of a path. -/
def nulPosition (path : String) : Nat :=
  (String.ofList (path.toList.takeWhile (· != '\x00'))).utf8ByteSize

/-- Go on by one name from a directory. -/
def follow
    (directory : Directory)
    (location : Location)
    (name : String) : Except FileError Location :=
  match directory.node? location with
  | none => .error .notFound
  | some .directory =>
    if name = "" || name = "." then .ok location
    else if name = ".." then .ok (above location)
    else if nameLimit < name.utf8ByteSize then .error .nameTooLong
    else .ok (location ++ [name])
  | some _ => .error .notDirectory

/-- The location that a path leads to; only its last name may lead nowhere. -/
def locate (directory : Directory) (path : String) : Except FileError Location :=
  if hasNul path then .error .nulInPath
  else if pathLimit < path.utf8ByteSize then .error .nameTooLong
  else (names path).foldlM directory.follow []

def readText (directory : Directory) (path : String) : Except FileError String := do
  let location ← directory.locate path
  match directory.node? location with
  | none => .error .notFound
  | some (.text content) => .ok content
  | some .directory => .error .isDirectory
  | some (.database _) => .error .notText

/-- Set the node at a location. -/
def put (directory : Directory) (location : Location) (node : Node) : Directory :=
  { directory with nodes := directory.nodes.insert location node }

/-- Make the directory to which names lead; the directory above it has to be there. -/
def makeDirectory (directory : Directory) (way : List String) : Except FileError Directory := do
  let location ← way.foldlM directory.follow []
  match directory.node? location with
  | none => return directory.put location .directory
  | some _ => throw .exists

/-- Decide whether names lead to a directory. -/
def leadsToDirectory (directory : Directory) (way : List String) : Bool :=
  match (way.foldlM directory.follow []).toOption.bind directory.node? with
  | some .directory => true
  | _ => false

/--
Make the directories along names, given from the last one on, as far as that is possible, with the
error that keeps the last directory from being made.  A directory that is there is left alone, and
only where the one above is missing it is made first.
-/
def makeDirectories (directory : Directory) : List String → Except FileError Unit × Directory
  | [] => (.ok (), directory)
  | last :: before =>
    let way := (last :: before).reverse
    let settle (directory : Directory) (cause : FileError) :=
      (if directory.leadsToDirectory way then .ok () else .error cause, directory)
    match directory.makeDirectory way with
    | .ok made => (.ok (), made)
    | .error .notFound =>
      match makeDirectories directory before with
      | (.error cause, made) => (.error cause, made)
      | (.ok (), made) =>
        match made.makeDirectory way with
        | .ok final => (.ok (), final)
        | .error cause => settle made cause
    | .error cause => settle directory cause

/-- The names on the path of a database, which ends at the last name that is not empty or a dot. -/
def databaseNames (path : String) : List String :=
  (names path).filter fun name => name ≠ "" && name ≠ "."

/-- Make the directories on the way to a database. -/
def makeWay (directory : Directory) (path : String) : Except FileError Unit × Directory :=
  let way := (databaseNames path).dropLast
  if way.any hasNul then (.error .nulInPath, directory)
  else if pathLimit < (String.intercalate "/" way).utf8ByteSize then
    (.error .nameTooLong, directory)
  else directory.makeDirectories way.reverse

def locateDatabase (directory : Directory) (path : String) : Except StoreError Location :=
  if hasNul path then
    .error (.nulInPath (nulPosition path))
  else
    match (databaseNames path).foldlM directory.follow [] with
    | .ok location => .ok location
    | .error _ => .error (.cannotOpen path)

/-- Decide whether the journal beside a database at a location has too long a name. -/
def journalTooLong (location : Location) : Bool :=
  nameLimit < (location.getLastD "" ++ "-journal").utf8ByteSize

/-- Create the database at a location where nothing or an empty file is. -/
def createDatabase
    (location : Location)
    (directory : Directory) : Except Error Database × Directory :=
  if journalTooLong location then
    (.error (.store .cannotOpenJournal),
      if (directory.node? location).isNone then directory.put location (.text "") else directory)
  else (.ok .empty, directory.put location (.database .empty))

/-- Open the database at a path to which there is a way; a file of one byte counts as empty. -/
def openAt (path : String) (directory : Directory) : Except Error Database × Directory :=
  match directory.locateDatabase path with
  | .error cause => (.error (.store cause), directory)
  | .ok location =>
    match directory.node? location with
    | none => directory.createDatabase location
    | some (.text content) =>
      if content.utf8ByteSize ≤ 1 then directory.createDatabase location
      else (.error (.store .notADatabase), directory)
    | some (.database content) => (.ok content, directory)
    | some .directory => (.error (.store (.cannotOpen path)), directory)

/-- Open the database in a file, and make what is missing. -/
def openDatabase (path : String) : StateM Directory (Except Error Database) := do
  match ← modifyGet (·.makeWay path) with
  | .error cause => return .error (.file cause)
  | .ok () => modifyGet (openAt path)

/-- Replace the content of an open database. -/
def saveDatabase (path : String) (database : Database) : StateM Directory Unit := do
  let directory ← get
  match directory.locateDatabase path with
  | .ok location => set (directory.put location (.database database))
  | .error _ => return

/-- A directory as the surroundings of commands. -/
def surroundings : Surroundings (StateM Directory) where
  readText path := return (← get).readText path
  dataset := return (← get).dataset
  openDatabase := openDatabase
  saveDatabase := saveDatabase
  now := return (← get).time

/-- Put a text file into a directory, with the directories on the way to it. -/
def addText (directory : Directory) (path content : String) : Directory :=
  let made := (directory.makeDirectories (names path).dropLast.reverse).2
  match made.locate path with
  | .ok location => made.put location (.text content)
  | .error _ => made

/-- The directories that stand in the root of every system. -/
def systemDirectories : List String :=
  ["dev", "etc", "proc", "tmp", "usr", "var"]

/-- The directory with nothing in it, in a system with its usual directories and a null device. -/
def empty (time : String) : Directory :=
  let bare : Directory := ⟨.empty, none, time⟩
  let system := systemDirectories.foldl
    (fun directory name => directory.put [root, name] .directory) bare
  system.put [root, "dev", "null"] (.text "")

end Directory

end SemanticIndex
