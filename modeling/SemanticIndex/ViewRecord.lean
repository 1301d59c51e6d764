import SemanticIndex.Document
import SemanticIndex.Manifest.Basic

/-!
# View records

A view is found by the question that it answers: its record holds that question, a description
and the statement, as one line of JSON.
-/

namespace SemanticIndex

/-- What is stored to find a view. -/
structure ViewRecord where
  question : String
  description : String
  statement : String
deriving DecidableEq, Inhabited

namespace ViewRecord

/-- The record of a view; absent properties are empty. -/
def ofView (view : View) : ViewRecord where
  question := view.propertyText "question"
  description := view.propertyText "description"
  statement := view.statement

/-- The JSON form of a record. -/
def toJson (record : ViewRecord) : Json :=
  .object [("question", .string record.question), ("description", .string record.description),
    ("statement", .string record.statement)]

end ViewRecord

/-- The numbered records of views. -/
def viewDocuments (views : List View) : List Document :=
  Document.sequence (views.map fun view => (ViewRecord.ofView view).toJson.compact)

end SemanticIndex
