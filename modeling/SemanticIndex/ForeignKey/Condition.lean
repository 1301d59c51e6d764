import SemanticIndex.Text.Blank
import SemanticIndex.Text.Cut

/-!
# Join conditions

A join condition equates two column references, each a table and a column with a dot between
them.  Blanks around every identifier are dropped, and so is one pair of double quotes around it.
-/

namespace SemanticIndex

/-- A reference to a column of a table. -/
structure ColumnReference where
  table : String
  column : String
deriving DecidableEq, Inhabited

/-- Remove the double quotes around an identifier that has them at both ends. -/
def unquote (identifier : List Char) : List Char :=
  match identifier with
  | '"' :: rest => if rest.getLast? == some '"' then rest.dropLast else identifier
  | _ => identifier

/-- The identifier in a part of a reference, without blanks and quotes around it. -/
def identifier (part : List Char) : List Char :=
  unquote (Text.trim part)

/-- Read a column reference; neither part may be empty. -/
def ColumnReference.read? (characters : List Char) : Option ColumnReference := do
  let (table, column) ← Text.cutAt? '.' (Text.trim characters)
  if (identifier table).isEmpty || (identifier column).isEmpty then none
  else some ⟨String.ofList (identifier table), String.ofList (identifier column)⟩

/-- An equation between two column references. -/
structure Condition where
  /-- The reference before the equals sign. -/
  left : ColumnReference
  /-- The reference behind the equals sign. -/
  right : ColumnReference
deriving DecidableEq, Inhabited

/-- Read a condition, which has exactly one equals sign. -/
def Condition.read? (text : String) : Option Condition := do
  let (left, right) ← Text.cutAt? '=' text.toList
  if right.contains '=' then none
  else some ⟨← ColumnReference.read? left, ← ColumnReference.read? right⟩

end SemanticIndex
