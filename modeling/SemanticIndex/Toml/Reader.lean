import SemanticIndex.Toml.Quoted
import SemanticIndex.Toml.Scalar

/-!
# Reading TOML

A text is read line by line into statements, from which the document is built.  Values are read
by recursion; each step takes at least one character, so the length of the text bounds the number
of steps.  Arrays and tables in braces may be nested 79 deep, and a key may have 79 parts.
-/

namespace SemanticIndex.Toml

/-- Leave out the spaces and tabs at the start of a text. -/
def dropGap (characters : List Char) : List Char :=
  characters.dropWhile isGap

/-- Leave out a comment at the start of a text. -/
def dropComment (characters : List Char) : List Char :=
  match characters with
  | '#' :: rest => rest.dropWhile isPrintable
  | _ => characters

/-- Leave out the rest of a line, which may hold only a comment. -/
def endLine? (characters : List Char) : Option (List Char) :=
  match dropComment (dropGap characters) with
  | [] => some []
  | '\n' :: rest => some rest
  | '\r' :: '\n' :: rest => some rest
  | _ => none

/-- Leave out blanks, line breaks and comments, at most `fuel` of them. -/
def dropLines : Nat → List Char → List Char
  | 0, characters => characters
  | fuel + 1, characters =>
    match characters with
    | ' ' :: rest => dropLines fuel rest
    | '\t' :: rest => dropLines fuel rest
    | '\n' :: rest => dropLines fuel rest
    | '\r' :: '\n' :: rest => dropLines fuel rest
    | '#' :: rest => dropLines fuel (rest.dropWhile isPrintable)
    | _ => characters

/-- Leave out all blanks, line breaks and comments at the start of a text. -/
def dropBetween (characters : List Char) : List Char :=
  dropLines characters.length characters

/-- The greatest nesting of values and the greatest number of parts of a key. -/
def depthLimit : Nat := 79

def readKeyPart? (characters : List Char) : Option (String × List Char) :=
  match characters with
  | '"' :: rest => (readBasic? rest).map fun read => (String.ofList read.1, read.2)
  | '\'' :: rest => (readLiteral? rest).map fun read => (String.ofList read.1, read.2)
  | _ =>
    let part := characters.takeWhile isKeyCharacter
    if part.isEmpty then none
    else some (String.ofList part, characters.dropWhile isKeyCharacter)

/-- Read the parts of a key, at most `fuel` of them, with the gap behind it. -/
def readKey? : Nat → List Char → Option ((List String × String) × List Char)
  | 0, _ => none
  | fuel + 1, characters => do
    let (part, rest) ← readKeyPart? (dropGap characters)
    match dropGap rest with
    | '.' :: rest => do
      let ((path, key), rest) ← readKey? fuel rest
      some ((part :: path, key), rest)
    | rest => some (([], part), rest)

/-- Read an equals sign with the gap behind it. -/
def readEquals? : List Char → Option (List Char)
  | '=' :: rest => some (dropGap rest)
  | _ => none

mutual

def readValue? : Nat → Nat → List Char → Option (Item × List Char)
  | 0, _, _ => none
  | fuel + 1, depth, characters =>
    match characters with
    | '[' :: rest =>
      if depth = 0 then none
      else do
        let (elements, rest) ← readElements? fuel (depth - 1) (dropBetween rest)
        some (.array elements, rest)
    | '{' :: rest =>
      if depth = 0 then none
      else
        match dropGap rest with
        | '}' :: rest => some (.inlineTable [], rest)
        | rest => do
          let (assignments, rest) ← readAssignments? fuel (depth - 1) rest
          let table ← inlineTable? assignments
          some (table, rest)
    | '"' :: _ => (readString? characters).map fun read => (.string (String.ofList read.1), read.2)
    | '\'' :: _ =>
      (readString? characters).map fun read => (.string (String.ofList read.1), read.2)
    | _ => readWord? characters

/-- Read the elements of an array up to its end, from the start of one on. -/
def readElements? : Nat → Nat → List Char → Option (List Item × List Char)
  | 0, _, _ => none
  | fuel + 1, depth, characters =>
    match characters with
    | ']' :: rest => some ([], rest)
    | _ => do
      let (element, rest) ← readValue? fuel depth characters
      match dropBetween rest with
      | ']' :: rest => some ([element], rest)
      | ',' :: rest => do
        let (elements, rest) ← readElements? fuel depth (dropBetween rest)
        some (element :: elements, rest)
      | _ => none

/-- Read the assignments of a table in braces up to its end. -/
def readAssignments? :
    Nat → Nat → List Char → Option (List (List String × String × Item) × List Char)
  | 0, _, _ => none
  | fuel + 1, depth, characters => do
    let ((path, key), rest) ← readKey? depthLimit characters
    let (item, rest) ← readValue? fuel depth (← readEquals? rest)
    match dropGap rest with
    | '}' :: rest => some ([(path, key, item)], rest)
    | ',' :: rest => do
      let (assignments, rest) ← readAssignments? fuel depth rest
      some ((path, key, item) :: assignments, rest)
    | _ => none

end

/-- Read the statement that a line starts with, up to the end of the line. -/
def readStatement? (characters : List Char) : Option (Statement × List Char) :=
  match characters with
  | '[' :: '[' :: rest => do
    let ((path, key), rest) ← readKey? depthLimit rest
    match rest with
    | ']' :: ']' :: rest => some (.rowHeader path key, rest)
    | _ => none
  | '[' :: rest => do
    let ((path, key), rest) ← readKey? depthLimit rest
    match rest with
    | ']' :: rest => some (.header path key, rest)
    | _ => none
  | _ => do
    let ((path, key), rest) ← readKey? depthLimit characters
    let value ← readEquals? rest
    let (item, rest) ← readValue? (2 * value.length + 2) depthLimit value
    some (.assignment path key item, rest)

/-- Read the statements of a text, at most `fuel` lines of it. -/
def readStatements? : Nat → List Char → Option (List Statement)
  | 0, _ => none
  | fuel + 1, characters =>
    match dropGap characters with
    | [] => some []
    | '#' :: rest => do
      readStatements? fuel (← endLine? ('#' :: rest))
    | '\n' :: rest => readStatements? fuel rest
    | '\r' :: '\n' :: rest => readStatements? fuel rest
    | characters => do
      let (statement, rest) ← readStatement? characters
      let statements ← readStatements? fuel (← endLine? rest)
      some (statement :: statements)

/-- Read a document; a byte order mark at its start is left out. -/
def read? (text : String) : Option Entries := do
  let characters :=
    match text.toList with
    | '\uFEFF' :: rest => rest
    | characters => characters
  document? (← readStatements? (characters.length + 1) characters)

end SemanticIndex.Toml
