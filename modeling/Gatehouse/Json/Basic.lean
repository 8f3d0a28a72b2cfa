import Gatehouse.Number.Binary64

/-!
# JSON values

Whole numbers have any size and are apart from floating point numbers. An object
is a list of members in the order of the text. An escape can name half of a surrogate
pair; a text in which such a half stands alone is no text of characters and is kept as
its code points.
-/

namespace Gatehouse

inductive Json where
  | null
  | bool (b : Bool)
  | int (n : Int)
  | float (x : Binary64)
  | str (s : String)
  /-- A text with a half of a surrogate pair that has no partner. -/
  | unpaired (points : List Nat)
  | arr (items : List Json)
  | obj (members : List (String × Json))
deriving Inhabited

namespace Json

/-- The value of the member called `name`. -/
def get? (name : String) : Json → Option Json
  | .obj members => members.lookup name
  | _ => none

/-- A code point as a character; half of a surrogate pair is kept as one that is for private
use. -/
def pointChar (n : Nat) : Char := if n.isValidChar then Char.ofNat n else Char.ofNat (0x100000 + n)

/-- Code points as text where there is room for characters only. -/
def textOfPoints (points : List Nat) : String := String.ofList (points.map pointChar)

/-- The text of code points, or what stands for it if a half has no partner. -/
def ofPoints (points : List Nat) : Json :=
  if points.all fun n => decide n.isValidChar then .str (String.ofList (points.map Char.ofNat))
  else .unpaired points

end Json

end Gatehouse
