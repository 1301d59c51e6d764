/-!
# Documents

A compiled document is a text with an id, the decimal position of the text in its emission order.
An embedded document carries a vector besides; its numbers are kept as 32-bit patterns, so that
nothing is lost when they are stored.
-/

namespace SemanticIndex

/-- A compiled text with its id. -/
structure Document where
  /-- The decimal position of the document in its emission order. -/
  id : String
  content : String
deriving DecidableEq, Inhabited

namespace Document

/-- Number texts from zero on. -/
def sequence (contents : List String) : List Document :=
  contents.mapIdx fun position content => ⟨toString position, content⟩

end Document

/-- The bit patterns of a vector of single-precision numbers. -/
abbrev Embedding := List UInt32

/-- A compiled text with its id and its vector. -/
structure EmbeddedDocument where
  id : String
  content : String
  embedding : Embedding
deriving DecidableEq, Inhabited

/-- The compiled document without its vector. -/
def EmbeddedDocument.document (embedded : EmbeddedDocument) : Document :=
  ⟨embedded.id, embedded.content⟩

end SemanticIndex
