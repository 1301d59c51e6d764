import SemanticIndex.Description.Request
import SemanticIndex.Text.Cut

/-!
# Command lines

The arguments of a call name a command, its file and its options.  A long option that takes a
value has it behind an equals sign or as the next argument, which then may not look like an
option; only the list of models may be given more than once.  Verbosity may be asked for once
before the command and once behind it, and everything behind a double dash is a file.
-/

namespace SemanticIndex

/-- A command with its arguments. -/
inductive Command where
  | compile (file : String)
  | views (file : String)
  | index (file settings : String)
  | count (settings : String)
  /-- Print a manifest with the descriptions of a recorded reply. -/
  | describe (file reply : String) (request : DescriptionRequest)
deriving DecidableEq, Inhabited

/-- What a command line asks for. -/
inductive Invocation where
  | version
  | help
  | run (command : Command)
deriving DecidableEq, Inhabited

namespace Invocation

/-- Why the reading of arguments ends early. -/
inductive Stop where
  | version
  | help
  /-- The arguments make no sense. -/
  | misuse
deriving DecidableEq, Inhabited

/-- What a command accepts besides flags. -/
structure Shape where
  takesFile : Bool
  /-- The names of its options that take a value. -/
  options : List String

/-- What has been read of a command's arguments. -/
structure Given where
  verbose : Bool
  file : Option String
  options : List (String × String)

/-- The options of each command. -/
def shape? : String → Option Shape
  | "compile" => some ⟨true, []⟩
  | "views" => some ⟨true, []⟩
  | "index" => some ⟨true, ["config"]⟩
  | "count" => some ⟨false, ["config"]⟩
  | "describe" => some ⟨true, ["models", "reply", "prompt", "language"]⟩
  | _ => none

/-- Read the letters behind a single dash; `versioned` allows the letter for the version. -/
def readLetters (versioned : Bool) (verbose : Bool) : List Char → Except Stop Bool
  | [] => .ok verbose
  | 'v' :: rest => if verbose then .error .misuse else readLetters versioned true rest
  | 'h' :: _ => .error .help
  | 'V' :: _ => .error (if versioned then .version else .misuse)
  | _ => .error .misuse

/-- Decide whether an argument looks like an option. -/
def isOption (argument : String) : Bool :=
  match argument.toList with
  | '-' :: _ :: _ => true
  | _ => false

/-- Record the value of an option; paths may not be empty. -/
def Given.addOption (given : Given) (name value : String) : Except Stop Given :=
  let isPath := name = "config" || name = "reply"
  let repeatable := name = "models"
  if (isPath && value = "") || (!repeatable && (given.options.lookup name).isSome) then
    .error .misuse
  else .ok { given with options := given.options ++ [(name, value)] }

/-- Record the file. -/
def Given.addFile (given : Given) (shape : Shape) (file : String) : Except Stop Given :=
  if !shape.takesFile || given.file.isSome || file = "" then .error .misuse
  else .ok { given with file := some file }

/-- Record a long option that stands alone. -/
def Given.addFlag (given : Given) (name : String) : Except Stop Given :=
  if name = "help" then .error .help
  else if name = "verbose" && !given.verbose then .ok { given with verbose := true }
  else .error .misuse

/-- Read the arguments behind a command's name. -/
def readGiven (shape : Shape) (given : Given) : List String → Except Stop Given
  | [] => .ok given
  | argument :: rest =>
    match argument.toList with
    | ['-', '-'] => rest.foldlM (fun given file => given.addFile shape file) given
    | '-' :: '-' :: long =>
      match Text.cutAt? '=' long with
      | some (name, value) =>
        let name := String.ofList name
        if shape.options.contains name then do
          readGiven shape (← given.addOption name (String.ofList value)) rest
        else .error .misuse
      | none =>
        let name := String.ofList long
        if shape.options.contains name then
          match rest with
          | value :: rest =>
            if isOption value then .error .misuse
            else do readGiven shape (← given.addOption name value) rest
          | [] => .error .misuse
        else do readGiven shape (← given.addFlag name) rest
    | '-' :: letter :: letters => do
      let verbose ← readLetters false given.verbose (letter :: letters)
      readGiven shape { given with verbose := verbose } rest
    | _ => do readGiven shape (← given.addFile shape argument) rest

/-- The settings file of a command when none is named. -/
def defaultSettings : String := "mdl-index.toml"

/-- The command of a name with the given arguments. -/
def command (name : String) (given : Given) : Except Stop Command :=
  let settings := (given.options.lookup "config").getD defaultSettings
  match name, given.file with
  | "compile", some file => .ok (.compile file)
  | "views", some file => .ok (.views file)
  | "index", some file => .ok (.index file settings)
  | "count", _ => .ok (.count settings)
  | "describe", some file =>
    match given.options.lookup "reply" with
    | some reply =>
      let lists := given.options.filter fun option => option.1 = "models"
      .ok (.describe file reply {
        selected := lists.flatMap fun option =>
          (option.2.toList.splitOn ',').map String.ofList
        prompt := (given.options.lookup "prompt").getD ""
        language := (given.options.lookup "language").getD defaultLanguage })
    | none => .error .misuse
  | _, _ => .error .misuse

/-- Decide whether arguments name at most one thing to explain. -/
def isTopic : List String → Bool
  | [] => true
  | [topic] => topic = "help" || (shape? topic).isSome
  | _ => false

/-- Read the arguments from the command's name on. -/
def readCommand (verbose : Bool) : List String → Except Stop Command
  | [] => .error .misuse
  | argument :: rest =>
    match argument.toList with
    | ['-', '-'] => .error .misuse
    | '-' :: '-' :: long =>
      match String.ofList long with
      | "version" => .error .version
      | "help" => .error .help
      | "verbose" => if verbose then .error .misuse else readCommand true rest
      | _ => .error .misuse
    | '-' :: letter :: letters => do
      readCommand (← readLetters true verbose (letter :: letters)) rest
    | _ =>
      if argument = "help" then .error (if isTopic rest then .help else .misuse)
      else
        match shape? argument with
        | some shape => do
          command argument (← readGiven shape ⟨false, none, []⟩ rest)
        | none => .error .misuse

/-- Read the arguments of a call; nothing comes of arguments that make no sense. -/
def read? (arguments : List String) : Option Invocation :=
  match readCommand false arguments with
  | .ok command => some (.run command)
  | .error .version => some .version
  | .error .help => some .help
  | .error .misuse => none

end Invocation

end SemanticIndex
