import SemanticIndex.Digest.Sha256
import SemanticIndex.Embedding.Embedder
import SemanticIndex.Text.Blank
import SemanticIndex.Text.Case

/-!
# Feature hashing

The hashing embedder needs no service: every lower-case word of a text is hashed to a bucket and a
sign, the signs are counted in their buckets, and the vector of counts is scaled to unit length.

A bucket counts in single precision, where a count of `2 ^ 24` no longer changes when one more is
added; counts are therefore kept as integers between `-2 ^ 24` and `2 ^ 24`.
-/

namespace SemanticIndex

/-- Where a word counts. -/
structure Placement where
  /-- A number that selects the bucket, modulo the number of buckets. -/
  hash : Nat
  /-- Whether the word counts up. -/
  positive : Bool
deriving DecidableEq, Inhabited

/-- The number that a list of bytes spells, lowest byte first. -/
def littleEndian (bytes : List UInt8) : Nat :=
  bytes.foldr (fun byte total => byte.toNat + 256 * total) 0

/-- The placement of a word by its SHA-256 digest. -/
def Placement.ofWord (word : List Char) : Placement :=
  let digest := Sha256.ofText (String.ofList word)
  ⟨littleEndian (digest.take 8), (digest.getD 8 0).toNat % 2 == 0⟩

/-- The greatest count that single precision reaches in steps of one. -/
def countLimit : Int := 0x1000000

/-- Count one up or down within the limit. -/
def countOne (positive : Bool) (count : Int) : Int :=
  if positive then min (count + 1) countLimit else max (count - 1) (-countLimit)

/-- Count a placed word in its bucket. -/
def countWord (counts : Array Int) (placement : Placement) : Array Int :=
  counts.modify (placement.hash % counts.size) (countOne placement.positive)

/-- Count placed words in the given number of buckets. -/
def countWords (buckets : Nat) (placements : List Placement) : Array Int :=
  placements.foldl countWord (Array.replicate buckets 0)

/-- Scale a vector of counts to unit length; a vector of length zero stays as it is. -/
def normalizeCounts (counts : Array Int) : List Float32 :=
  let vector := counts.toList.map Float32.ofInt
  let norm := ((vector.map fun entry => entry * entry).foldl (· + ·) 0).sqrt
  if 0 < norm then vector.map (· / norm) else vector

/-- An embedder by feature hashing. -/
structure HashEmbedder where
  /-- The length of its vectors; zero counts as one. -/
  dimensions : Nat
deriving DecidableEq

namespace HashEmbedder

/-- The usual length of vectors. -/
def defaultDimensions : Nat := 64

/-- The vector of counts of a text. -/
def counts (embedder : HashEmbedder) (text : List Char) : Array Int :=
  countWords (max embedder.dimensions 1)
    ((Text.words text).map fun word => Placement.ofWord (Text.lower word))

/-- The vector of a text. -/
def embedText (embedder : HashEmbedder) (text : String) : Embedding :=
  (normalizeCounts (embedder.counts text.toList)).map Float32.toBits

def embedDocument (embedder : HashEmbedder) (document : Document) : EmbeddedDocument :=
  ⟨document.id, document.content, embedder.embedText document.content⟩

/-- The hashing embedder as an embedder that keeps no state and never fails. -/
def embed
    (embedder : HashEmbedder)
    {state : Type} : Embedder state :=
  fun batch => return batch.map embedder.embedDocument

end HashEmbedder

end SemanticIndex
