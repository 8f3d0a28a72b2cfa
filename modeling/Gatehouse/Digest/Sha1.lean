import Gatehouse.Digest.Basic

/-!
# The SHA-1 digest

Eighty rounds on five registers, in four groups of twenty that differ in how three
registers are combined and in the constant added. It signs session cookies.
-/

namespace Gatehouse.Digest.Sha1

/-- The registers before the first block. -/
def start : List (BitVec 32) := [0x67452301, 0xefcdab89, 0x98badcfe, 0x10325476, 0xc3d2e1f0]

/-- How the group of round `t` combines three registers, and its constant. -/
def combine (t : Nat) (b c d : BitVec 32) : BitVec 32 × BitVec 32 :=
  if t < 20 then ((b &&& c) ||| (~~~b &&& d), 0x5a827999)
  else if t < 40 then (b ^^^ c ^^^ d, 0x6ed9eba1)
  else if t < 60 then ((b &&& c) ||| (b &&& d) ||| (c &&& d), 0x8f1bbcdc)
  else (b ^^^ c ^^^ d, 0xca62c1d6)

/-- The word that enters a window of sixteen words as its first one leaves. -/
def nextWord (window : List (BitVec 32)) : BitVec 32 :=
  (window.getD 13 0 ^^^ window.getD 8 0 ^^^ window.getD 2 0 ^^^ window.getD 0 0).rotateLeft 1

def round (t : Nat) (word : BitVec 32) : List (BitVec 32) → List (BitVec 32)
  | [a, b, c, d, e] =>
    let (f, k) := combine t b c d
    [a.rotateLeft 5 + f + e + k + word, a, b.rotateLeft 30, c, d]
  | registers => registers

/-- The registers after the rounds with these numbers. -/
def rounds : List Nat → List (BitVec 32) → List (BitVec 32) → List (BitVec 32)
  | [], _, registers => registers
  | t :: ts, window, registers =>
    rounds ts (window.drop 1 ++ [nextWord window]) (round t (window.getD 0 0) registers)

/-- The registers after one block of the message. -/
def block (registers : List (BitVec 32)) (bytes : List UInt8) : List (BitVec 32) :=
  List.zipWith (· + ·) registers (rounds (List.range 80) (wordsOf 32 bytes) registers)

end Sha1

/-- The digest of 160 bits. -/
def sha1 : Digest where
  blockBytes := 64
  run message :=
    ((chunks 64 (padded 64 8 message)).foldl Sha1.block Sha1.start).flatMap bytesOf

end Gatehouse.Digest
