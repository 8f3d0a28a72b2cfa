import Gatehouse.Encoding.Base64
import Gatehouse.Text.Utf8

/-!
# Parts joined by dots

What is signed is written in parts with dots between them. Most parts are base 64 without
padding, in which there is no dot, so that the parts are found where they were joined.
-/

namespace Gatehouse.Dotted

def dot : UInt8 := 0x2e

/-- A part of base 64 without padding. -/
def segment (bytes : List UInt8) : List UInt8 :=
  Text.Utf8.encode (Base64.encodeBare .urlSafe bytes)

/-- The text of bytes that are all ASCII. -/
def asciiText (bytes : List UInt8) : String :=
  String.ofList (bytes.map fun b => Char.ofNat b.toNat)

/-- What stands before and behind the last dot. -/
def splitLast (bytes : List UInt8) : Option (List UInt8 × List UInt8) :=
  match bytes.reverse.dropWhile (· != dot) with
  | [] => none
  | _ :: before => some (before.reverse, (bytes.reverse.takeWhile (· != dot)).reverse)

/-- What stands before and behind the first dot. -/
def splitFirst (bytes : List UInt8) : Option (List UInt8 × List UInt8) :=
  match bytes.dropWhile (· != dot) with
  | [] => none
  | _ :: behind => some (bytes.takeWhile (· != dot), behind)

end Gatehouse.Dotted
