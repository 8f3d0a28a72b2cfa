import Gatehouse.Json.Reader
import Gatehouse.Text.Utf8

/-!
# JSON values from bytes

Bytes that hold JSON tell themselves how they are encoded: by a mark in front, or by
where the first characters, which are ASCII, have their zero bytes. Half of a surrogate
pair is let through in every encoding; as a character of its own it is read like its
escape.
-/

namespace Gatehouse.Json

/-- How text is written in bytes. -/
inductive Coding where
  | utf8
  | utf16 (bigEndian : Bool)
  | utf32 (bigEndian : Bool)
deriving DecidableEq, Repr

/-- The marks in front of bytes and the codings they stand for; of two that both fit, the
longer one comes first. -/
def codingMarks : List (List UInt8 × Coding) :=
  [([0, 0, 0xfe, 0xff], .utf32 true), ([0xff, 0xfe, 0, 0], .utf32 false),
    ([0xfe, 0xff], .utf16 true), ([0xff, 0xfe], .utf16 false), ([0xef, 0xbb, 0xbf], .utf8)]

/-- The coding of bytes without a mark. -/
def unmarkedCoding : List UInt8 → Coding
  | a :: b :: c :: d :: _ =>
    if a = 0 then (if b = 0 then .utf32 true else .utf16 true)
    else if b = 0 then (if c = 0 && d = 0 then .utf32 false else .utf16 false)
    else .utf8
  | [a, b] => if a = 0 then .utf16 true else if b = 0 then .utf16 false else .utf8
  | _ => .utf8

/-- The coding of some bytes, and the bytes behind the mark in front. -/
def codingOf (bytes : List UInt8) : Coding × List UInt8 :=
  match codingMarks.find? fun mark => mark.1.isPrefixOf bytes with
  | some (mark, coding) => (coding, bytes.drop mark.length)
  | none => (unmarkedCoding bytes, bytes)

/-- A code point as JSON text: itself, or the escape of half of a surrogate pair. -/
def pointText (n : Nat) : Option (List Char) :=
  if n.isValidChar then some [Char.ofNat n]
  else if n < 0x10000 then some ('\\' :: 'u' :: Text.Hex.padded 4 n)
  else none

/-- Halves of surrogate pairs in UTF-8 as their escapes. -/
def escapeHalves : List UInt8 → List UInt8
  | 0xed :: b :: c :: rest =>
    if 0xa0 ≤ b && b ≤ 0xbf && 0x80 ≤ c && c ≤ 0xbf then
      let n := 0xd000 + (b.toNat - 0x80) * 0x40 + (c.toNat - 0x80)
      0x5c :: 0x75 :: Text.Utf8.encode (Text.Hex.padded 4 n) ++ escapeHalves rest
    else 0xed :: escapeHalves (b :: c :: rest)
  | b :: rest => b :: escapeHalves rest
  | [] => []

/-- The units of two bytes each; none may be left over. -/
def units16? (bigEndian : Bool) : List UInt8 → Option (List Nat)
  | [] => some []
  | [_] => none
  | a :: b :: rest =>
    (units16? bigEndian rest).map
      ((if bigEndian then a.toNat * 256 + b.toNat else b.toNat * 256 + a.toNat) :: ·)

/-- The units of four bytes each; none may be left over. -/
def units32? (bigEndian : Bool) : List UInt8 → Option (List Nat)
  | [] => some []
  | a :: b :: c :: d :: rest =>
    let n :=
      if bigEndian then ((a.toNat * 256 + b.toNat) * 256 + c.toNat) * 256 + d.toNat
      else ((d.toNat * 256 + c.toNat) * 256 + b.toNat) * 256 + a.toNat
    (units32? bigEndian rest).map (n :: ·)
  | _ => none

/-- The code points of units of sixteen bits: two halves that belong together are one. -/
def joinPairs : List Nat → List Nat
  | [] => []
  | [n] => [n]
  | high :: low :: rest =>
    if 0xd800 ≤ high ∧ high ≤ 0xdbff ∧ 0xdc00 ≤ low ∧ low ≤ 0xdfff then
      (0x10000 + (high - 0xd800) * 0x400 + (low - 0xdc00)) :: joinPairs rest
    else high :: joinPairs (low :: rest)

/-- The text of bytes that hold JSON. -/
def textOfBytes? (bytes : List UInt8) : Option (List Char) :=
  let ofPoints (points : List Nat) : Option (List Char) := (points.mapM pointText).map (·.flatten)
  match codingOf bytes with
  | (.utf8, rest) => Text.Utf8.decode? (escapeHalves rest)
  | (.utf16 bigEndian, rest) => (units16? bigEndian rest).bind (ofPoints ∘ joinPairs)
  | (.utf32 bigEndian, rest) => (units32? bigEndian rest).bind ofPoints

/-- The value that bytes from outside stand for, with at most `depth` lists and objects inside
its outermost one. -/
def readBytes (numbers : NumberReading) (depth : Nat) (bytes : List UInt8) :
    Except Misread Json :=
  match textOfBytes? bytes with
  | some cs => read numbers (depth + 1) cs
  | none => .error .malformed

end Gatehouse.Json
