/-!
SHA-256: a digest of 256 bits for any run of bytes. The bytes are padded to blocks of sixteen words;
each block is stretched to 64 words, and each of these stirs a state of eight words.
-/

namespace SchemaDraft.Sha256

/-- The word of each round: the first bits of the fractions of the cube roots of the first 64
primes. -/
def roundWords : List UInt32 :=
  [0x428a2f98, 0x71374491, 0xb5c0fbcf, 0xe9b5dba5, 0x3956c25b, 0x59f111f1, 0x923f82a4, 0xab1c5ed5,
    0xd807aa98, 0x12835b01, 0x243185be, 0x550c7dc3, 0x72be5d74, 0x80deb1fe, 0x9bdc06a7, 0xc19bf174,
    0xe49b69c1, 0xefbe4786, 0x0fc19dc6, 0x240ca1cc, 0x2de92c6f, 0x4a7484aa, 0x5cb0a9dc, 0x76f988da,
    0x983e5152, 0xa831c66d, 0xb00327c8, 0xbf597fc7, 0xc6e00bf3, 0xd5a79147, 0x06ca6351, 0x14292967,
    0x27b70a85, 0x2e1b2138, 0x4d2c6dfc, 0x53380d13, 0x650a7354, 0x766a0abb, 0x81c2c92e, 0x92722c85,
    0xa2bfe8a1, 0xa81a664b, 0xc24b8b70, 0xc76c51a3, 0xd192e819, 0xd6990624, 0xf40e3585, 0x106aa070,
    0x19a4c116, 0x1e376c08, 0x2748774c, 0x34b0bcb5, 0x391c0cb3, 0x4ed8aa4a, 0x5b9cca4f, 0x682e6ff3,
    0x748f82ee, 0x78a5636f, 0x84c87814, 0x8cc70208, 0x90befffa, 0xa4506ceb, 0xbef9a3f7, 0xc67178f2]

/-- The state of eight words. -/
structure State where
  a : UInt32
  b : UInt32
  c : UInt32
  d : UInt32
  e : UInt32
  f : UInt32
  g : UInt32
  h : UInt32
  deriving Repr, DecidableEq

/-- The first state: the first bits of the fractions of the square roots of the first eight primes.
-/
def State.initial : State :=
  ⟨0x6a09e667, 0xbb67ae85, 0x3c6ef372, 0xa54ff53a,
    0x510e527f, 0x9b05688c, 0x1f83d9ab, 0x5be0cd19⟩

/-- The bits moved right, those that fall out coming in at the left. -/
def rotateRight (x : UInt32) (n : UInt32) : UInt32 := (x >>> n) ||| (x <<< (32 - n))

/-- One round: the state after a word of the block and the word of the round. -/
def State.round (s : State) (word roundWord : UInt32) : State :=
  let stirE := rotateRight s.e 6 ^^^ rotateRight s.e 11 ^^^ rotateRight s.e 25
  let choice := (s.e &&& s.f) ^^^ (~~~s.e &&& s.g)
  let first := s.h + stirE + choice + roundWord + word
  let stirA := rotateRight s.a 2 ^^^ rotateRight s.a 13 ^^^ rotateRight s.a 22
  let majority := (s.a &&& s.b) ^^^ (s.a &&& s.c) ^^^ (s.b &&& s.c)
  ⟨first + (stirA + majority), s.a, s.b, s.c, s.d + first, s.e, s.f, s.g⟩

/-- The word that follows some words of a block, the newest of which comes first. -/
def nextWord (newestFirst : List UInt32) : UInt32 :=
  let old := newestFirst.getD 14 0
  let new := newestFirst.getD 1 0
  let stirOld := rotateRight old 7 ^^^ rotateRight old 18 ^^^ (old >>> 3)
  let stirNew := rotateRight new 17 ^^^ rotateRight new 19 ^^^ (new >>> 10)
  newestFirst.getD 15 0 + stirOld + newestFirst.getD 6 0 + stirNew

/-- The words of a block, newest first, with so many more. -/
def stretch : Nat → List UInt32 → List UInt32
  | 0, ws => ws
  | n + 1, ws => stretch n (nextWord ws :: ws)

/-- The word-wise sum of two states. -/
def State.add (s t : State) : State :=
  ⟨s.a + t.a, s.b + t.b, s.c + t.c, s.d + t.d, s.e + t.e, s.f + t.f, s.g + t.g, s.h + t.h⟩

/-- The state after a block of sixteen words. -/
def State.absorb (s : State) (block : List UInt32) : State :=
  let words := (stretch 48 block.reverse).reverse
  s.add ((words.zip roundWords).foldl (fun t w => t.round w.1 w.2) s)

/-- The length in bits as eight bytes, the highest first. -/
def lengthBytes (bytes : Nat) : List UInt8 :=
  [56, 48, 40, 32, 24, 16, 8, 0].map fun shift => UInt8.ofNat ((8 * bytes) >>> shift % 256)

/-- The bytes with a one bit, zeros and their length, filling whole blocks. -/
def padded (bytes : List UInt8) : List UInt8 :=
  bytes ++ 0x80 :: (List.replicate ((119 - bytes.length % 64) % 64) 0 ++ lengthBytes bytes.length)

/-- Bytes four by four as words, the highest byte first. -/
def wordsOf : List UInt8 → List UInt32
  | a :: b :: c :: d :: rest =>
    ((a.toUInt32 <<< 24) ||| (b.toUInt32 <<< 16) ||| (c.toUInt32 <<< 8) ||| d.toUInt32)
      :: wordsOf rest
  | _ => []

/-- The state after so many blocks. -/
def absorbAll : Nat → State → List UInt32 → State
  | 0, s, _ => s
  | n + 1, s, words => absorbAll n (s.absorb (words.take 16)) (words.drop 16)

def digest (bytes : List UInt8) : State :=
  let words := wordsOf (padded bytes)
  absorbAll (words.length / 16) .initial words

end SchemaDraft.Sha256
