import SemanticIndex.Error
import SemanticIndex.ForeignKey.Condition
import SemanticIndex.Manifest.Basic

/-!
# Foreign keys from relationships

A relationship gives the table on its "many" side a foreign key to the other model; a one-to-one
relationship gives one to either side.  The key column is the one that the condition names on the
table's own side, and it refers to the primary key of the other model.
-/

namespace SemanticIndex

/-- A foreign key of a table. -/
structure ForeignKey where
  column : String
  references : String
  primaryKey : String
deriving DecidableEq, Inhabited

/-- The constraint clause of a foreign key. -/
def ForeignKey.clause (key : ForeignKey) : String :=
  "FOREIGN KEY (" ++ key.column ++ ") REFERENCES " ++ key.references ++ "(" ++
    key.primaryKey ++ ")"

/-- A side of a relationship and of its condition. -/
inductive Side where
  /-- The first model, before the equals sign. -/
  | left
  /-- The second model, behind the equals sign. -/
  | right
deriving DecidableEq, Inhabited

namespace Relationship

def model (relationship : Relationship) : Side → String
  | .left => relationship.first
  | .right => relationship.second

/-- The side on which a table gets a foreign key from a relationship, if it gets one. -/
def keySide? (relationship : Relationship) (table : String) : Option Side :=
  match relationship.joinType with
  | .manyToOne => if relationship.first = table then some .left else none
  | .oneToMany => if relationship.second = table then some .right else none
  | .oneToOne =>
    if relationship.first = table then some .left
    else if relationship.second = table then some .right
    else none
  | .other _ => none

end Relationship

def Side.opposite : Side → Side
  | .left => .right
  | .right => .left

def Condition.reference (condition : Condition) : Side → ColumnReference
  | .left => condition.left
  | .right => condition.right

def lastNamed? (models : List Model) (name : String) : Option Model :=
  models.reverse.find? (·.name = name)

/-- The foreign key that a relationship gives on a side. -/
def keyOnSide
    (models : List Model)
    (relationship : Relationship)
    (side : Side) : Except ResolutionFailure ForeignKey :=
  let referenced := relationship.model side.opposite
  match Condition.read? relationship.condition with
  | none => .error (.malformedCondition relationship.condition)
  | some condition =>
    if condition.left.table ≠ relationship.first ∨
        condition.right.table ≠ relationship.second then
      .error (.tableMismatch condition.left.table condition.right.table
        relationship.first relationship.second)
    else
      match lastNamed? models referenced with
      | none => .error (.unknownModel referenced)
      | some model =>
        match model.key? with
        | none => .error (.missingPrimaryKey referenced)
        | some primaryKey =>
          .ok ⟨(condition.reference side).column, referenced, primaryKey⟩

/-- The foreign keys of a table in the order of the relationships. -/
def foreignKeys
    (models : List Model)
    (table : String) : List Relationship → Except Error (List ForeignKey)
  | [] => .ok []
  | relationship :: rest =>
    match relationship.keySide? table with
    | none => foreignKeys models table rest
    | some side =>
      match keyOnSide models relationship side with
      | .error reason => .error (.resolution table relationship.label reason)
      | .ok key => do
        let keys ← foreignKeys models table rest
        return key :: keys

/-- The foreign keys that the relationships of a manifest give a table. -/
def Manifest.foreignKeys
    (manifest : Manifest)
    (table : String) : Except Error (List ForeignKey) :=
  SemanticIndex.foreignKeys manifest.models table manifest.relationships

end SemanticIndex
