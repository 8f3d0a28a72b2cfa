/-!
# Digests of messages

A digest takes a message of any length to a few bytes. All digests here cut the
padded message into blocks, read each block as words with the most significant
byte first, and end with the words' bytes.
-/

namespace Gatehouse

/-- A digest and the size of the blocks it works on. -/
structure Digest where
  blockBytes : Nat
  run : List UInt8 → List UInt8

namespace Digest

/-- Pieces of `size` bytes, with at most `fuel` of them. -/
def chunksUpTo (size : Nat) : Nat → List UInt8 → List (List UInt8)
  | 0, _ => []
  | _, [] => []
  | fuel + 1, bytes => bytes.take size :: chunksUpTo size fuel (bytes.drop size)

/-- The bytes in pieces of `size`. -/
def chunks (size : Nat) (bytes : List UInt8) : List (List UInt8) :=
  chunksUpTo size bytes.length bytes

/-- The number that bytes stand for, the most significant byte first. -/
def number (bytes : List UInt8) : Nat := bytes.foldl (fun n b => n * 256 + b.toNat) 0

/-- The last `count` bytes of a number, the most significant first. -/
def numberBytes : Nat → Nat → List UInt8
  | 0, _ => []
  | count + 1, n => numberBytes count (n / 256) ++ [UInt8.ofNat (n % 256)]

/-- The words of `w` bits in a block. -/
def wordsOf (w : Nat) (bytes : List UInt8) : List (BitVec w) :=
  (chunks (w / 8) bytes).map fun c => BitVec.ofNat w (number c)

/-- The bytes of a word. -/
def bytesOf {w : Nat} (x : BitVec w) : List UInt8 := numberBytes (w / 8) x.toNat

/-- The message filled up to whole blocks: one bit, zeros, and at the end the
length in bits, written in `lengthBytes` bytes. -/
def padded (blockBytes lengthBytes : Nat) (message : List UInt8) : List UInt8 :=
  let used := (message.length + 1 + lengthBytes) % blockBytes
  message ++ 0x80 :: List.replicate ((blockBytes - used) % blockBytes) 0 ++
    numberBytes lengthBytes (8 * message.length)

/-- The keyed digest of a message: the key, filled up to a block and masked in two
ways, goes in front of the message and in front of the inner digest. A key longer
than a block is replaced by its digest. -/
def keyed (d : Digest) (key message : List UInt8) : List UInt8 :=
  let short := if d.blockBytes < key.length then d.run key else key
  let block := short ++ List.replicate (d.blockBytes - short.length) 0
  let masked (m : UInt8) := block.map (· ^^^ m)
  d.run (masked 0x5c ++ d.run (masked 0x36 ++ message))

end Digest

end Gatehouse
