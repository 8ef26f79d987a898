/-! # SHA-2

Both digests are one construction over words of `w` bits: SHA-256 has words of 32 bits and 64
rounds, SHA-512 words of 64 bits and 80 rounds. The constants of SHA-256 are the upper halves of
those of SHA-512.
-/

namespace SessionTokens.Crypto.Sha2

/-- The fractional parts of the cube roots of the first eighty primes. -/
def cubeRoots : List Nat := [
    0x428a2f98d728ae22, 0x7137449123ef65cd, 0xb5c0fbcfec4d3b2f, 0xe9b5dba58189dbbc,
    0x3956c25bf348b538, 0x59f111f1b605d019, 0x923f82a4af194f9b, 0xab1c5ed5da6d8118,
    0xd807aa98a3030242, 0x12835b0145706fbe, 0x243185be4ee4b28c, 0x550c7dc3d5ffb4e2,
    0x72be5d74f27b896f, 0x80deb1fe3b1696b1, 0x9bdc06a725c71235, 0xc19bf174cf692694,
    0xe49b69c19ef14ad2, 0xefbe4786384f25e3, 0x0fc19dc68b8cd5b5, 0x240ca1cc77ac9c65,
    0x2de92c6f592b0275, 0x4a7484aa6ea6e483, 0x5cb0a9dcbd41fbd4, 0x76f988da831153b5,
    0x983e5152ee66dfab, 0xa831c66d2db43210, 0xb00327c898fb213f, 0xbf597fc7beef0ee4,
    0xc6e00bf33da88fc2, 0xd5a79147930aa725, 0x06ca6351e003826f, 0x142929670a0e6e70,
    0x27b70a8546d22ffc, 0x2e1b21385c26c926, 0x4d2c6dfc5ac42aed, 0x53380d139d95b3df,
    0x650a73548baf63de, 0x766a0abb3c77b2a8, 0x81c2c92e47edaee6, 0x92722c851482353b,
    0xa2bfe8a14cf10364, 0xa81a664bbc423001, 0xc24b8b70d0f89791, 0xc76c51a30654be30,
    0xd192e819d6ef5218, 0xd69906245565a910, 0xf40e35855771202a, 0x106aa07032bbd1b8,
    0x19a4c116b8d2d0c8, 0x1e376c085141ab53, 0x2748774cdf8eeb99, 0x34b0bcb5e19b48a8,
    0x391c0cb3c5c95a63, 0x4ed8aa4ae3418acb, 0x5b9cca4f7763e373, 0x682e6ff3d6b2b8a3,
    0x748f82ee5defb2fc, 0x78a5636f43172f60, 0x84c87814a1f0ab72, 0x8cc702081a6439ec,
    0x90befffa23631e28, 0xa4506cebde82bde9, 0xbef9a3f7b2c67915, 0xc67178f2e372532b,
    0xca273eceea26619c, 0xd186b8c721c0c207, 0xeada7dd6cde0eb1e, 0xf57d4f7fee6ed178,
    0x06f067aa72176fba, 0x0a637dc5a2c898a6, 0x113f9804bef90dae, 0x1b710b35131c471b,
    0x28db77f523047d84, 0x32caab7b40c72493, 0x3c9ebe0a15c9bebc, 0x431d67c49c100d4c,
    0x4cc5d4becb3e42b6, 0x597f299cfc657e2a, 0x5fcb6fab3ad6faec, 0x6c44198c4a475817]

/-- The fractional parts of the square roots of the first eight primes. -/
def squareRoots : List Nat := [
    0x6a09e667f3bcc908, 0xbb67ae8584caa73b, 0x3c6ef372fe94f82b, 0xa54ff53a5f1d36f1,
    0x510e527fade682d1, 0x9b05688c2b3e6c1f, 0x1f83d9abfb41bd6b, 0x5be0cd19137e2179]

/-- What distinguishes the digests. -/
structure Variant (w : Nat) where
  /-- One constant for each round. -/
  constants : List (BitVec w)
  /-- The first eight words. -/
  initial : List (BitVec w)
  /-- The rotations of the state words. -/
  sum0 : Nat × Nat × Nat
  sum1 : Nat × Nat × Nat
  /-- Two rotations and a shift of the message words. -/
  mix0 : Nat × Nat × Nat
  mix1 : Nat × Nat × Nat

/-- The variant with words of 64 bits. -/
def sha512 : Variant 64 where
  constants := cubeRoots.map (BitVec.ofNat 64)
  initial := squareRoots.map (BitVec.ofNat 64)
  sum0 := (28, 34, 39)
  sum1 := (14, 18, 41)
  mix0 := (1, 8, 7)
  mix1 := (19, 61, 6)

/-- The variant with words of 32 bits. -/
def sha256 : Variant 32 where
  constants := (cubeRoots.take 64).map fun root => BitVec.ofNat 32 (root / 4294967296)
  initial := squareRoots.map fun root => BitVec.ofNat 32 (root / 4294967296)
  sum0 := (2, 13, 22)
  sum1 := (6, 11, 25)
  mix0 := (7, 18, 3)
  mix1 := (17, 19, 10)

/-- The eight words that a digest carries from block to block. -/
structure State (w : Nat) where
  a : BitVec w
  b : BitVec w
  c : BitVec w
  d : BitVec w
  e : BitVec w
  f : BitVec w
  g : BitVec w
  h : BitVec w

namespace State

/-- The state of eight words. -/
def ofList (words : List (BitVec w)) : State w :=
  ⟨words.getD 0 0, words.getD 1 0, words.getD 2 0, words.getD 3 0,
    words.getD 4 0, words.getD 5 0, words.getD 6 0, words.getD 7 0⟩

/-- The words of a state. -/
def toList (s : State w) : List (BitVec w) := [s.a, s.b, s.c, s.d, s.e, s.f, s.g, s.h]

/-- The sum of two states, word by word. -/
def add (s t : State w) : State w :=
  ⟨s.a + t.a, s.b + t.b, s.c + t.c, s.d + t.d, s.e + t.e, s.f + t.f, s.g + t.g, s.h + t.h⟩

end State

/-- The exclusive or of three rotations. -/
def rotations (by3 : Nat × Nat × Nat) (x : BitVec w) : BitVec w :=
  x.rotateRight by3.1 ^^^ x.rotateRight by3.2.1 ^^^ x.rotateRight by3.2.2

/-- The exclusive or of two rotations and a shift. -/
def mixing (by3 : Nat × Nat × Nat) (x : BitVec w) : BitVec w :=
  x.rotateRight by3.1 ^^^ x.rotateRight by3.2.1 ^^^ (x >>> by3.2.2)

/-- The message word that follows sixteen message words. -/
def nextWord (v : Variant w) (window : List (BitVec w)) : BitVec w :=
  mixing v.mix1 (window.getD 14 0) + window.getD 9 0 + mixing v.mix0 (window.getD 1 0) +
    window.getD 0 0

/-- One round, with its constant and its message word. -/
def round (v : Variant w) (s : State w) (constant word : BitVec w) : State w :=
  let choice := (s.e &&& s.f) ^^^ (~~~s.e &&& s.g)
  let majority := (s.a &&& s.b) ^^^ (s.a &&& s.c) ^^^ (s.b &&& s.c)
  let t1 := s.h + rotations v.sum1 s.e + choice + constant + word
  let t2 := rotations v.sum0 s.a + majority
  ⟨t1 + t2, s.a, s.b, s.c, s.d + t1, s.e, s.f, s.g⟩

/-- All rounds of a block, over the next sixteen message words. -/
def rounds (v : Variant w) (s : State w) (window : List (BitVec w)) : List (BitVec w) → State w
  | [] => s
  | constant :: rest =>
      rounds v (round v s constant (window.getD 0 0)) (window.drop 1 ++ [nextWord v window]) rest

/-- The number that bytes spell, the most significant first. -/
def ofBigEndian (bytes : List UInt8) : Nat :=
  bytes.foldl (fun value byte => value * 256 + byte.toNat) 0

/-- The last `n` bytes of a number, the most significant first. -/
def toBigEndian : Nat → Nat → List UInt8
  | 0, _ => []
  | n + 1, value => toBigEndian n (value / 256) ++ [UInt8.ofNat (value % 256)]

/-- The first `n` words of bytes. -/
def wordsOf (w : Nat) : Nat → List UInt8 → List (BitVec w)
  | 0, _ => []
  | n + 1, bytes =>
      BitVec.ofNat w (ofBigEndian (bytes.take (w / 8))) :: wordsOf w n (bytes.drop (w / 8))

/-- The number of bytes in a block. -/
def blockSize (w : Nat) : Nat := 16 * (w / 8)

/-- Takes `n` blocks into the state. -/
def absorb (v : Variant w) : Nat → State w → List UInt8 → State w
  | 0, s, _ => s
  | n + 1, s, bytes =>
      absorb v n (s.add (rounds v s (wordsOf w 16 bytes) v.constants))
        (bytes.drop (blockSize w))

/-- A message with the mark of its end, zeros and its length in bits, filling whole blocks. -/
def padded (w : Nat) (message : List UInt8) : List UInt8 :=
  let block := blockSize w
  let lengthSize := w / 4
  let used := (message.length + 1 + lengthSize) % block
  let zeros := if used = 0 then 0 else block - used
  message ++ 0x80 :: List.replicate zeros 0 ++ toBigEndian lengthSize (8 * message.length)

/-- The digest of a message. -/
def digest (v : Variant w) (message : List UInt8) : List UInt8 :=
  let blocks := padded w message
  let s := absorb v (blocks.length / blockSize w) (State.ofList v.initial) blocks
  s.toList.flatMap fun word => toBigEndian (w / 8) word.toNat

end SessionTokens.Crypto.Sha2
