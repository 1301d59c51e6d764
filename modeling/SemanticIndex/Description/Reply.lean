import SemanticIndex.Description.Basic
import SemanticIndex.Json.Reader
import SemanticIndex.Text.Blank

/-!
# Replies of a generator

A reply is JSON in which runs of blanks count as one space, inside strings too.  It names models
with their descriptions and columns; other keys may hold any form.  Each record may also be
written as an array of its members in their order.  A reply that does not have this shape gives no
descriptions.
-/

namespace SemanticIndex.Reply

open SemanticIndex.Json

/-- Collect the forms under known keys, none of which may be repeated. -/
def knownFields?
    (known : List String)
    (found : Fields Form) : List (List Piece × Form) → Option (Fields Form)
  | [] => some found
  | (pieces, form) :: rest => do
    let key ← stringOf? pieces
    if known.contains key then
      if (found.get? key).isSome then none
      else knownFields? known (found.put key form) rest
    else knownFields? known found rest

/-- The forms of a record's members, written by key or by position. -/
def members? (known : List String) : Form → Option (Fields Form)
  | .object fields => knownFields? known [] fields
  | .array elements =>
    if elements.length ≤ known.length then some (known.zip elements) else none
  | _ => none

/-- The text of a string form. -/
def string? : Form → Option String
  | .string pieces => stringOf? pieces
  | _ => none

def arrayOf? {value : Type} (read : Form → Option value) : Form → Option (List value)
  | .array elements => elements.mapM read
  | _ => none

/-- A member that may be absent. -/
def memberD?
    {value : Type}
    (members : Fields Form)
    (key : String)
    (absent : value)
    (read : Form → Option value) : Option value :=
  match members.get? key with
  | some form => read form
  | none => some absent

/-- The description among properties. -/
def description? (form : Form) : Option String := do
  let members ← members? ["description"] form
  memberD? members "description" "" string?

def column? (form : Form) : Option ColumnDescription := do
  let members ← members? ["name", "properties"] form
  let name ← (members.get? "name").bind string?
  let description ← memberD? members "properties" "" description?
  some ⟨name, description⟩

def model? (form : Form) : Option ModelDescription := do
  let members ← members? ["name", "columns", "properties"] form
  let name ← (members.get? "name").bind string?
  let columns ← memberD? members "columns" [] (arrayOf? column?)
  let description ← memberD? members "properties" "" description?
  some ⟨name, description, columns⟩

/-- The descriptions of a whole reply. -/
def models? (form : Form) : Option (List ModelDescription) := do
  let members ← members? ["models"] form
  memberD? members "models" [] (arrayOf? model?)

/-- The descriptions that a reply gives, by model name. -/
def read (reply : String) : Descriptions :=
  let models := (Form.ofText? none (Text.collapse reply.toList)).bind models?
  .ofList ((models.getD []).map fun model => (model.name, model))

end SemanticIndex.Reply
