import Gatehouse.Text.Hex
import Gatehouse.Text.Printable

/-!
# Quoted text

Messages show a text between quotes. The quotes are single, unless the text
holds a single quote and no double one. The quote in use and the backslash are
escaped, so are line breaks and tabs, and a character that is not printable is
written as its code point.
-/

namespace Gatehouse.Text.Quoted

/-- The quote that needs the fewest escapes; a single one when in doubt. -/
def quoteFor (cs : List Char) : Char :=
  if cs.contains '\'' && !cs.contains '"' then '"' else '\''

/-- How one character stands between quotes of the kind `quote`. -/
def escape (quote c : Char) : List Char :=
  if c = quote ∨ c = '\\' then ['\\', c]
  else if c = '\n' then ['\\', 'n']
  else if c = '\r' then ['\\', 'r']
  else if c = '\t' then ['\\', 't']
  else if isPrintable c then [c]
  else if c.toNat < 0x100 then '\\' :: 'x' :: Hex.padded 2 c.toNat
  else if c.toNat < 0x10000 then '\\' :: 'u' :: Hex.padded 4 c.toNat
  else '\\' :: 'U' :: Hex.padded 8 c.toNat

/-- The characters between quotes. -/
def chars (cs : List Char) : List Char :=
  let quote := quoteFor cs
  quote :: cs.flatMap (escape quote) ++ [quote]

/-- The text between quotes. -/
def text (s : String) : String := String.ofList (chars s.toList)

/-- Code points between quotes; half of a surrogate pair is written as its code. -/
def points (ns : List Nat) : String :=
  let shown (n : Nat) : Char := if n.isValidChar then Char.ofNat n else '?'
  let quote := quoteFor (ns.map shown)
  let escapePoint (n : Nat) : List Char :=
    if n.isValidChar then escape quote (Char.ofNat n) else '\\' :: 'u' :: Hex.padded 4 n
  String.ofList (quote :: ns.flatMap escapePoint ++ [quote])

/-- How one byte stands between quotes: ASCII as text, all else by its code. -/
def escapeByte (quote : Char) (b : UInt8) : List Char :=
  if b < 0x7f then escape quote (Char.ofNat b.toNat) else '\\' :: 'x' :: Hex.padded 2 b.toNat

/-- Bytes between quotes, marked as bytes by a `b` in front. -/
def bytes (bs : List UInt8) : String :=
  let quote := quoteFor (bs.map fun b => Char.ofNat b.toNat)
  String.ofList ('b' :: quote :: bs.flatMap (escapeByte quote) ++ [quote])

end Gatehouse.Text.Quoted
