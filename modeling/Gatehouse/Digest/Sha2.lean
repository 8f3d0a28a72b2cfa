import Gatehouse.Digest.Basic

/-!
# The SHA-2 digests

The digests with words of 32 and of 64 bits follow one scheme and differ in the
word size, the number of rounds, the distances of rotation and the start value.
The constants are the first bits behind the point of roots of the first primes,
so those of the smaller digest are the upper halves of those of the larger one.
-/

namespace Gatehouse.Digest

/-- What a digest of the family fixes. -/
structure Sha2 (w : Nat) where
  constants : List (BitVec w)
  start : List (BitVec w)
  /-- Rotation distances that mix the first and the fifth register. -/
  mixFirst : Nat × Nat × Nat
  mixFifth : Nat × Nat × Nat
  /-- Two rotations and a shift that make new words of old ones. -/
  spreadOld : Nat × Nat × Nat
  spreadNew : Nat × Nat × Nat
  /-- How many bytes of the last registers are the digest. -/
  outputBytes : Nat

namespace Sha2

/-- Fractional parts of the cube roots of the first eighty primes. -/
def cubeRoots : List Nat :=
  [
    0x428a2f98d728ae22, 0x7137449123ef65cd, 0xb5c0fbcfec4d3b2f, 0xe9b5dba58189dbbc,
    0x3956c25bf348b538, 0x59f111f1b605d019, 0x923f82a4af194f9b, 0xab1c5ed5da6d8118,
    0xd807aa98a3030242, 0x12835b0145706fbe, 0x243185be4ee4b28c, 0x550c7dc3d5ffb4e2,
    0x72be5d74f27b896f, 0x80deb1fe3b1696b1, 0x9bdc06a725c71235, 0xc19bf174cf692694,
    0xe49b69c19ef14ad2, 0xefbe4786384f25e3, 0x0fc19dc68b8cd5b5, 0x240ca1cc77ac9c65,
    0x2de92c6f592b0275, 0x4a7484aa6ea6e483, 0x5cb0a9dcbd41fbd4, 0x76f988da831153b5,
    0x983e5152ee66dfab, 0xa831c66d2db43210, 0xb00327c898fb213f, 0xbf597fc7beef0ee4,
    0xc6e00bf33da88fc2, 0xd5a79147930aa725, 0x06ca6351e003826f, 0x142929670a0e6e70,
    0x27b70a8546d22ffc, 0x2e1b21385c26c926, 0x4d2c6dfc5ac42aed, 0x53380d139d95b3df,
    0x650a73548baf63de, 0x766a0abb3c77b2a8, 0x81c2c92e47edaee6, 0x92722c851482353b,
    0xa2bfe8a14cf10364, 0xa81a664bbc423001, 0xc24b8b70d0f89791, 0xc76c51a30654be30,
    0xd192e819d6ef5218, 0xd69906245565a910, 0xf40e35855771202a, 0x106aa07032bbd1b8,
    0x19a4c116b8d2d0c8, 0x1e376c085141ab53, 0x2748774cdf8eeb99, 0x34b0bcb5e19b48a8,
    0x391c0cb3c5c95a63, 0x4ed8aa4ae3418acb, 0x5b9cca4f7763e373, 0x682e6ff3d6b2b8a3,
    0x748f82ee5defb2fc, 0x78a5636f43172f60, 0x84c87814a1f0ab72, 0x8cc702081a6439ec,
    0x90befffa23631e28, 0xa4506cebde82bde9, 0xbef9a3f7b2c67915, 0xc67178f2e372532b,
    0xca273eceea26619c, 0xd186b8c721c0c207, 0xeada7dd6cde0eb1e, 0xf57d4f7fee6ed178,
    0x06f067aa72176fba, 0x0a637dc5a2c898a6, 0x113f9804bef90dae, 0x1b710b35131c471b,
    0x28db77f523047d84, 0x32caab7b40c72493, 0x3c9ebe0a15c9bebc, 0x431d67c49c100d4c,
    0x4cc5d4becb3e42b6, 0x597f299cfc657e2a, 0x5fcb6fab3ad6faec, 0x6c44198c4a475817 ]

/-- Fractional parts of the square roots of the first sixteen primes. -/
def squareRoots : List Nat :=
  [
    0x6a09e667f3bcc908, 0xbb67ae8584caa73b, 0x3c6ef372fe94f82b, 0xa54ff53a5f1d36f1,
    0x510e527fade682d1, 0x9b05688c2b3e6c1f, 0x1f83d9abfb41bd6b, 0x5be0cd19137e2179,
    0xcbbb9d5dc1059ed8, 0x629a292a367cd507, 0x9159015a3070dd17, 0x152fecd8f70e5939,
    0x67332667ffc00b31, 0x8eb44a8768581511, 0xdb0c2e0d64f98fa7, 0x47b5481dbefa4fa4 ]

variable {w : Nat}

def rotations (d : Nat × Nat × Nat) (x : BitVec w) : BitVec w :=
  x.rotateRight d.1 ^^^ x.rotateRight d.2.1 ^^^ x.rotateRight d.2.2

def spread (d : Nat × Nat × Nat) (x : BitVec w) : BitVec w :=
  x.rotateRight d.1 ^^^ x.rotateRight d.2.1 ^^^ (x >>> d.2.2)

/-- The word that enters a window of sixteen words as its first one leaves. -/
def nextWord (p : Sha2 w) (window : List (BitVec w)) : BitVec w :=
  spread p.spreadNew (window.getD 14 0) + window.getD 9 0 +
    spread p.spreadOld (window.getD 1 0) + window.getD 0 0

/-- One round on the eight registers. -/
def round (p : Sha2 w) (constant word : BitVec w) : List (BitVec w) → List (BitVec w)
  | [a, b, c, d, e, f, g, h] =>
    let t1 := h + rotations p.mixFifth e + ((e &&& f) ^^^ (~~~e &&& g)) + constant + word
    let t2 := rotations p.mixFirst a + ((a &&& b) ^^^ (a &&& c) ^^^ (b &&& c))
    [t1 + t2, a, b, c, d + t1, e, f, g]
  | registers => registers

/-- The registers after a round for each constant. -/
def rounds (p : Sha2 w) : List (BitVec w) → List (BitVec w) → List (BitVec w) → List (BitVec w)
  | [], _, registers => registers
  | k :: ks, window, registers =>
    rounds p ks (window.drop 1 ++ [nextWord p window])
      (round p k (window.getD 0 0) registers)

/-- The registers after one block of the message. -/
def block (p : Sha2 w) (registers : List (BitVec w)) (bytes : List UInt8) : List (BitVec w) :=
  List.zipWith (· + ·) registers (rounds p p.constants (wordsOf w bytes) registers)

/-- The digest of a message. -/
def digest (p : Sha2 w) (message : List UInt8) : List UInt8 :=
  let blocks := chunks (2 * w) (padded (2 * w) (w / 4) message)
  ((blocks.foldl (block p) p.start).flatMap bytesOf).take p.outputBytes

end Sha2

def sha2With32 : Sha2 32 where
  constants := (Sha2.cubeRoots.take 64).map fun n => BitVec.ofNat 32 (n >>> 32)
  start := (Sha2.squareRoots.take 8).map fun n => BitVec.ofNat 32 (n >>> 32)
  mixFirst := (2, 13, 22)
  mixFifth := (6, 11, 25)
  spreadOld := (7, 18, 3)
  spreadNew := (17, 19, 10)
  outputBytes := 32

def sha2With64 (start : List Nat) (outputBytes : Nat) : Sha2 64 where
  constants := Sha2.cubeRoots.map (BitVec.ofNat 64)
  start := start.map (BitVec.ofNat 64)
  mixFirst := (28, 34, 39)
  mixFifth := (14, 18, 41)
  spreadOld := (1, 8, 7)
  spreadNew := (19, 61, 6)
  outputBytes := outputBytes

/-- The digest of 256 bits. -/
def sha256 : Digest := ⟨64, sha2With32.digest⟩

/-- The digest of 384 bits: the scheme of 512 bits with a start of its own, cut off. -/
def sha384 : Digest := ⟨128, (sha2With64 (Sha2.squareRoots.drop 8) 48).digest⟩

/-- The digest of 512 bits. -/
def sha512 : Digest := ⟨128, (sha2With64 (Sha2.squareRoots.take 8) 64).digest⟩

end Gatehouse.Digest
