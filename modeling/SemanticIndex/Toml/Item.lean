/-!
# TOML documents

A document is built from statements: table headers, headers of arrays of tables, and assignments
to dotted keys.  Every table remembers how it came about, because that decides what may be added
to it: a header may complete a table that only deeper headers have named, a dotted key may extend
only tables that dotted keys have made, and nothing else may be defined twice.
-/

namespace SemanticIndex.Toml

/-- How a table came about. -/
inductive Origin where
  /-- By its own header, or as the root. -/
  | header
  /-- By the header of a table inside it. -/
  | deeperHeader
  | dottedKey
deriving DecidableEq, Inhabited

/-- A part of a document. -/
inductive Item where
  | string (value : String)
  | integer (value : Int)
  /-- A floating-point number; no setting needs its value. -/
  | float
  | bool (value : Bool)
  /-- A date, a time or both; no setting needs its value. -/
  | moment
  | array (elements : List Item)
  /-- A complete table in braces. -/
  | inlineTable (entries : List (String × Item))
  | table (origin : Origin) (entries : List (String × Item))
  /-- An array of tables, by the entries of each. -/
  | tables (rows : List (List (String × Item)))
deriving Inhabited

/-- The entries of a table. -/
abbrev Entries := List (String × Item)

namespace Entries

/-- The item under a key. -/
def get? (entries : Entries) (key : String) : Option Item :=
  entries.lookup key

/-- Set the item under a key, in place or at the end. -/
def put (entries : Entries) (key : String) (item : Item) : Entries :=
  match entries with
  | [] => [(key, item)]
  | (candidate, old) :: rest =>
    if candidate = key then (key, item) :: rest else (candidate, old) :: put rest key item

/-- Change the entries of the last row of an array of tables. -/
def changeLast (change : Entries → Option Entries) : List Entries → Option (List Entries)
  | [] => none
  | [row] => (change row).map ([·])
  | row :: rest => (changeLast change rest).map (row :: ·)

/-- Change the entries of the table that a complete header path leads to. -/
def within (change : Entries → Option Entries) : List String → Entries → Option Entries
  | [], entries => change entries
  | key :: path, entries =>
    match entries.get? key with
    | some (.table origin inside) => do
      let inside ← within change path inside
      some (entries.put key (.table origin inside))
    | some (.tables rows) => do
      let rows ← changeLast (within change path) rows
      some (entries.put key (.tables rows))
    | _ => none

/-- Change the entries of the table that the path in front of a header's last key leads to. -/
def beforeHeader (change : Entries → Option Entries) : List String → Entries → Option Entries
  | [], entries => change entries
  | key :: path, entries =>
    match entries.get? key with
    | none => do
      let inside ← beforeHeader change path []
      some (entries.put key (.table .deeperHeader inside))
    | some (.table origin inside) => do
      let inside ← beforeHeader change path inside
      some (entries.put key (.table origin inside))
    | some (.tables rows) => do
      let rows ← changeLast (beforeHeader change path) rows
      some (entries.put key (.tables rows))
    | some _ => none

/-- Open the table of a header. -/
def openTable (key : String) (entries : Entries) : Option Entries :=
  match entries.get? key with
  | none => some (entries.put key (.table .header []))
  | some (.table .deeperHeader inside) => some (entries.put key (.table .header inside))
  | some _ => none

/-- Open a new row of an array of tables. -/
def openRow (key : String) (entries : Entries) : Option Entries :=
  match entries.get? key with
  | none => some (entries.put key (.tables [[]]))
  | some (.tables rows) => some (entries.put key (.tables (rows ++ [[]])))
  | some _ => none

/-- Add a new key to a table. -/
def add (key : String) (item : Item) (entries : Entries) : Option Entries :=
  match entries.get? key with
  | none => some (entries.put key item)
  | some _ => none

/-- Assign to a dotted key inside a table that dotted keys may extend. -/
def assignInside (key : String) (item : Item) : List String → Entries → Option Entries
  | [], entries => add key item entries
  | first :: path, entries =>
    match entries.get? first with
    | none => do
      let inside ← assignInside key item path []
      some (entries.put first (.table .dottedKey inside))
    | some (.table .dottedKey inside) => do
      let inside ← assignInside key item path inside
      some (entries.put first (.table .dottedKey inside))
    | some (.table .deeperHeader inside) =>
      if path.isEmpty then none
      else do
        let inside ← assignInside key item path inside
        some (entries.put first (.table .deeperHeader inside))
    | some (.tables rows) =>
      if path.isEmpty then none
      else do
        let rows ← changeLast (assignInside key item path) rows
        some (entries.put first (.tables rows))
    | some _ => none

end Entries

/-- A statement of a document. -/
inductive Statement where
  | header (path : List String) (key : String)
  /-- A header of a row of an array of tables. -/
  | rowHeader (path : List String) (key : String)
  | assignment (path : List String) (key : String) (item : Item)

/-- A document under construction: its entries and the path of the open table. -/
structure Draft where
  entries : Entries
  /-- The path of the table that assignments go to. -/
  path : List String

/-- Add a statement to a document. -/
def Draft.add? (draft : Draft) : Statement → Option Draft
  | .header path key => do
    let entries ← Entries.beforeHeader (Entries.openTable key) path draft.entries
    some ⟨entries, path ++ [key]⟩
  | .rowHeader path key => do
    let entries ← Entries.beforeHeader (Entries.openRow key) path draft.entries
    some ⟨entries, path ++ [key]⟩
  | .assignment path key item => do
    let entries ← Entries.within (Entries.assignInside key item path) draft.path draft.entries
    some ⟨entries, draft.path⟩

/-- The document that statements build. -/
def document? (statements : List Statement) : Option Entries :=
  (statements.foldlM Draft.add? ⟨[], []⟩).map Draft.entries

/-- The table that assignments in braces build. -/
def inlineTable? (assignments : List (List String × String × Item)) : Option Item :=
  (assignments.foldlM
    (fun entries assignment =>
      Entries.assignInside assignment.2.1 assignment.2.2 assignment.1 entries) []).map
    Item.inlineTable

end SemanticIndex.Toml
