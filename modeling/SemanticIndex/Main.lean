import SemanticIndex.Command.Directory
import SemanticIndex.Store.Archive
import Std.Time.DateTime

/-!
# The program

The command line over the real file system, environment and clock.
-/

namespace SemanticIndex.Program

/-- The code that the system gives an error of a file, or its negative. -/
def systemCode? : IO.Error → Option UInt32
  | .noFileOrDirectory _ code _ => some code
  | .alreadyExists _ code _ => some code
  | .inappropriateType _ code _ => some code
  | .invalidArgument _ code _ => some code
  | .otherError code _ => some code
  | _ => none

/-- The file error that stands behind an error of the system. -/
def fileError (error : IO.Error) : FileError :=
  match (systemCode? error).map fun code => min code (-code) with
  | some 2 => .notFound
  | some 17 => .exists
  | some 20 => .notDirectory
  | some 21 => .isDirectory
  | some 36 => .nameTooLong
  | _ => .notText

def readText (path : String) : IO (Except FileError String) := do
  if Directory.hasNul path then
    return .error .nulInPath
  try
    return .ok (← IO.FS.readFile path)
  catch error =>
    return .error (fileError error)

def databaseFile (path : String) : String :=
  String.intercalate "/" (Directory.databaseNames path)

/-- Open the database in a file; a missing file and its directories are made. -/
def openDatabase (path : String) : IO (Except Error Database) := do
  let way := (Directory.databaseNames path).dropLast
  if way.any Directory.hasNul then
    return .error (.file .nulInPath)
  try
    if !way.isEmpty then
      IO.FS.createDirAll (String.intercalate "/" way)
  catch error =>
    return .error (.file (fileError error))
  if Directory.hasNul path then
    return .error (.store (.nulInPath (Directory.nulPosition path)))
  match ← readText (databaseFile path) with
  | .ok text =>
    match Database.ofArchive? text with
    | some database => return .ok database
    | none => return .error (.store .notADatabase)
  | .error .notFound =>
    try
      IO.FS.writeFile (databaseFile path) (Database.archive .empty)
      return .ok .empty
    catch _ =>
      return .error (.store (.cannotOpen path))
  | .error .notText => return .error (.store .notADatabase)
  | .error _ => return .error (.store (.cannotOpen path))

/-- Replace the content of an open database. -/
def saveDatabase (path : String) (database : Database) : IO Unit := do
  IO.FS.writeFile (databaseFile path) database.archive

/-- A number with at least the given count of digits. -/
def padded (width number : Nat) : String :=
  let digits := Nat.toDigits 10 number
  String.ofList (List.replicate (width - digits.length) '0' ++ digits)

/-- The present time in universal time, to the second. -/
def now : IO String := do
  let time := Std.Time.DateTime.ofTimestampWithZone (← Std.Time.Timestamp.now)
    Std.Time.TimeZone.UTC
  return padded 4 time.year.toInt.toNat ++ "-" ++ padded 2 time.month.toNat ++ "-" ++
    padded 2 time.day.toNat ++ "T" ++ padded 2 time.hour.toNat ++ ":" ++
    padded 2 time.minute.toNat ++ ":" ++ padded 2 time.second.toNat ++ "Z"

/-- The surroundings of a process. -/
def surroundings : Surroundings IO where
  readText := readText
  dataset := IO.getEnv Settings.datasetVariable
  openDatabase := openDatabase
  saveDatabase := saveDatabase
  now := now

end SemanticIndex.Program

/-- Run the command that the arguments ask for. -/
def main (arguments : List String) : IO UInt32 := do
  let outcome ← SemanticIndex.Program.surroundings.call arguments
  IO.print outcome.output
  if let some message := outcome.error then
    IO.eprintln ("Error: " ++ message)
  return UInt32.ofNat outcome.code
