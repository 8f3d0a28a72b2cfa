import Gatehouse.Text.Hex
import Gatehouse.Text.Utf8

/-!
# Percent codes

A byte can be written as a percent sign and two digits. Writing leaves letters,
digits, a few marks and the characters declared safe as they are, and takes capital
digits. Reading takes digits of either case and leaves a percent sign alone that no
two digits follow.
-/

namespace Gatehouse.Percent

def isUnreserved (c : Char) : Bool :=
  ('a' ≤ c && c ≤ 'z') || ('A' ≤ c && c ≤ 'Z') || ('0' ≤ c && c ≤ '9') ||
    c = '_' || c = '.' || c = '-' || c = '~'

/-- The code of one byte. -/
def code (b : UInt8) : List Char :=
  ['%', (Text.Hex.digit (b.toNat / 16)).toUpper, (Text.Hex.digit (b.toNat % 16)).toUpper]

/-- One character, as it is or as the codes of its bytes. -/
def encodeChar (safe : List Char) (c : Char) : List Char :=
  if isUnreserved c || safe.contains c then [c]
  else (Text.Utf8.encodeChar c).flatMap code

/-- A text in which only safe characters stand as they are. -/
def encode (safe : List Char) (s : String) : String :=
  String.ofList (s.toList.flatMap (encodeChar safe))

/-- The bytes that a text in bytes stands for. -/
def decode : List UInt8 → List UInt8
  | [] => []
  | [a] => [a]
  | [a, b] => [a, b]
  | a :: b :: c :: rest =>
    if a = 0x25 then
      match Text.Hex.value? (Char.ofNat b.toNat), Text.Hex.value? (Char.ofNat c.toNat) with
      | some high, some low => UInt8.ofNat (high * 16 + low) :: decode rest
      | _, _ => a :: decode (b :: c :: rest)
    else a :: decode (b :: c :: rest)

end Gatehouse.Percent
