/-!
# SHA-256

The digest of a list of bytes: the bytes are padded to whole blocks of 64, and each block is
compressed into a state of eight words by 64 rounds over its message schedule.
-/

namespace SemanticIndex.Sha256

/-- The eight words of the compression state. -/
structure State where
  a : UInt32
  b : UInt32
  c : UInt32
  d : UInt32
  e : UInt32
  f : UInt32
  g : UInt32
  h : UInt32

/-- The state before the first block: square roots of the first eight primes. -/
def initial : State :=
  ⟨0x6a09e667, 0xbb67ae85, 0x3c6ef372, 0xa54ff53a,
    0x510e527f, 0x9b05688c, 0x1f83d9ab, 0x5be0cd19⟩

/-- The round constants: cube roots of the first 64 primes. -/
def roundConstants : List UInt32 := [
  0x428a2f98, 0x71374491, 0xb5c0fbcf, 0xe9b5dba5, 0x3956c25b, 0x59f111f1, 0x923f82a4, 0xab1c5ed5,
  0xd807aa98, 0x12835b01, 0x243185be, 0x550c7dc3, 0x72be5d74, 0x80deb1fe, 0x9bdc06a7, 0xc19bf174,
  0xe49b69c1, 0xefbe4786, 0x0fc19dc6, 0x240ca1cc, 0x2de92c6f, 0x4a7484aa, 0x5cb0a9dc, 0x76f988da,
  0x983e5152, 0xa831c66d, 0xb00327c8, 0xbf597fc7, 0xc6e00bf3, 0xd5a79147, 0x06ca6351, 0x14292967,
  0x27b70a85, 0x2e1b2138, 0x4d2c6dfc, 0x53380d13, 0x650a7354, 0x766a0abb, 0x81c2c92e, 0x92722c85,
  0xa2bfe8a1, 0xa81a664b, 0xc24b8b70, 0xc76c51a3, 0xd192e819, 0xd6990624, 0xf40e3585, 0x106aa070,
  0x19a4c116, 0x1e376c08, 0x2748774c, 0x34b0bcb5, 0x391c0cb3, 0x4ed8aa4a, 0x5b9cca4f, 0x682e6ff3,
  0x748f82ee, 0x78a5636f, 0x84c87814, 0x8cc70208, 0x90befffa, 0xa4506ceb, 0xbef9a3f7, 0xc67178f2]

/-- Rotate a word to the right. -/
def rotate (word amount : UInt32) : UInt32 :=
  (word >>> amount) ||| (word <<< (32 - amount))

/-- The bytes of a number, highest first. -/
def bigEndian (count number : Nat) : List UInt8 :=
  (List.range count).map fun position => UInt8.ofNat (number >>> (8 * (count - 1 - position)))

/-- Add the mark, the zeros and the bit length that fill the last block. -/
def pad (bytes : List UInt8) : List UInt8 :=
  let length := bytes.length
  bytes ++ 0x80 :: List.replicate ((119 - length % 64) % 64) 0 ++ bigEndian 8 (8 * length)

/-- The words that a list of bytes spells, highest byte first. -/
def wordsOf : List UInt8 → List UInt32
  | a :: b :: c :: d :: rest =>
    ((a.toUInt32 <<< 24) ||| (b.toUInt32 <<< 16) ||| (c.toUInt32 <<< 8) ||| d.toUInt32) ::
      wordsOf rest
  | _ => []

/-- Extend the sixteen words of a block to the 64 words of its schedule. -/
def schedule (block : List UInt32) : List UInt32 :=
  let extend (words : Array UInt32) (position : Nat) : Array UInt32 :=
    let word (offset : Nat) := words.getD (position + offset) 0
    let early := word 1
    let late := word 14
    let mixEarly := rotate early 7 ^^^ rotate early 18 ^^^ (early >>> 3)
    let mixLate := rotate late 17 ^^^ rotate late 19 ^^^ (late >>> 10)
    words.push (mixLate + word 9 + mixEarly + word 0)
  ((List.range 48).foldl extend block.toArray).toList

/-- One round with the sum of a round constant and a schedule word. -/
def round (state : State) (input : UInt32) : State :=
  let mixE := rotate state.e 6 ^^^ rotate state.e 11 ^^^ rotate state.e 25
  let choice := (state.e &&& state.f) ^^^ ((~~~state.e) &&& state.g)
  let first := state.h + mixE + choice + input
  let mixA := rotate state.a 2 ^^^ rotate state.a 13 ^^^ rotate state.a 22
  let majority := (state.a &&& state.b) ^^^ (state.a &&& state.c) ^^^ (state.b &&& state.c)
  ⟨first + mixA + majority, state.a, state.b, state.c, state.d + first, state.e, state.f, state.g⟩

/-- Compress the sixteen words of a block into the state. -/
def compress (state : State) (block : List UInt32) : State :=
  let mixed := (List.zipWith (· + ·) roundConstants (schedule block)).foldl round state
  ⟨state.a + mixed.a, state.b + mixed.b, state.c + mixed.c, state.d + mixed.d,
    state.e + mixed.e, state.f + mixed.f, state.g + mixed.g, state.h + mixed.h⟩

/-- Compress the given number of blocks into the state. -/
def compressBlocks : Nat → List UInt8 → State → State
  | 0, _, state => state
  | count + 1, bytes, state =>
    compressBlocks count (bytes.drop 64) (compress state (wordsOf (bytes.take 64)))

def digest (bytes : List UInt8) : List UInt8 :=
  let padded := pad bytes
  let state := compressBlocks (padded.length / 64) padded initial
  [state.a, state.b, state.c, state.d, state.e, state.f, state.g, state.h].flatMap fun word =>
    bigEndian 4 word.toNat

/-- The digest of a text in UTF-8. -/
def ofText (text : String) : List UInt8 :=
  digest text.toUTF8.toList

/-- Two hexadecimal digits for each byte. -/
def hexadecimal (bytes : List UInt8) : String :=
  String.ofList (bytes.flatMap fun byte =>
    [Nat.digitChar (byte.toNat / 16), Nat.digitChar (byte.toNat % 16)])

end SemanticIndex.Sha256
