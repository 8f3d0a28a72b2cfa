/-!
# Base 64

Six bits to a character. There are two alphabets, which differ in the last two
characters; writing chooses one and reading takes the plain one or both. Reading is
lenient: any other character is skipped, a padding mark is skipped where it cannot end
the text, and what follows a complete padding is not read. It fails only if the data
ends inside a group without its padding.
-/

namespace Gatehouse.Base64

/-- The last two characters of an alphabet. -/
inductive Alphabet where
  | plain
  | urlSafe

/-- The character for six bits. -/
def charOf (alphabet : Alphabet) (n : Nat) : Char :=
  if n < 26 then Char.ofNat (65 + n)
  else if n < 52 then Char.ofNat (71 + n)
  else if n < 62 then Char.ofNat (n - 4)
  else match alphabet, n with
    | .plain, 62 => '+'
    | .plain, _ => '/'
    | .urlSafe, 62 => '-'
    | .urlSafe, _ => '_'

/-- The alphabets that reading takes: the plain one alone, or both. -/
inductive Readable where
  | plain
  | either
deriving DecidableEq

/-- The six bits of a character. -/
def valueOf? (readable : Readable) (c : Char) : Option Nat :=
  if 'A' ≤ c ∧ c ≤ 'Z' then some (c.toNat - 65)
  else if 'a' ≤ c ∧ c ≤ 'z' then some (c.toNat - 71)
  else if '0' ≤ c ∧ c ≤ '9' then some (c.toNat + 4)
  else if c = '+' ∨ (c = '-' ∧ readable = .either) then some 62
  else if c = '/' ∨ (c = '_' ∧ readable = .either) then some 63
  else none

/-- The text of some bytes without padding. -/
def encodeBare (alphabet : Alphabet) : List UInt8 → List Char
  | [] => []
  | [a] =>
    let n := a.toNat * 16
    [charOf alphabet (n / 64), charOf alphabet (n % 64)]
  | [a, b] =>
    let n := (a.toNat * 256 + b.toNat) * 4
    [charOf alphabet (n / 4096), charOf alphabet (n / 64 % 64), charOf alphabet (n % 64)]
  | a :: b :: c :: rest =>
    let n := (a.toNat * 256 + b.toNat) * 256 + c.toNat
    charOf alphabet (n / 262144) :: charOf alphabet (n / 4096 % 64) ::
      charOf alphabet (n / 64 % 64) :: charOf alphabet (n % 64) :: encodeBare alphabet rest

/-- Fills a text up to a whole number of groups. -/
def pad (cs : List Char) : List Char :=
  cs ++ List.replicate ((4 - cs.length % 4) % 4) '='

/-- The text of some bytes with padding. -/
def encode (alphabet : Alphabet) (bytes : List UInt8) : List Char :=
  pad (encodeBare alphabet bytes)

/-- Where reading stands in a group of four characters: how many have been read,
the bits not yet given out, and how many padding marks came last. -/
structure Group where
  filled : Nat
  bits : Nat
  marks : Nat

/-- The bytes of the characters from here on. -/
def decodeFrom (readable : Readable) (g : Group) : List Char → Option (List UInt8)
  | [] => if g.filled = 0 then some [] else none
  | c :: rest =>
    if c = '=' then
      if 2 ≤ g.filled then
        if 4 ≤ g.filled + g.marks + 1 then some []
        else decodeFrom readable { g with marks := g.marks + 1 } rest
      else decodeFrom readable g rest
    else
      match valueOf? readable c with
      | none => decodeFrom readable g rest
      | some v =>
        match g.filled with
        | 0 => decodeFrom readable ⟨1, v, 0⟩ rest
        | 1 => (decodeFrom readable ⟨2, v % 16, 0⟩ rest).map (UInt8.ofNat (g.bits * 4 + v / 16) :: ·)
        | 2 => (decodeFrom readable ⟨3, v % 4, 0⟩ rest).map (UInt8.ofNat (g.bits * 16 + v / 4) :: ·)
        | _ => (decodeFrom readable ⟨0, 0, 0⟩ rest).map (UInt8.ofNat (g.bits * 64 + v) :: ·)

/-- The bytes that a text stands for, its padding given. -/
def decode? (readable : Readable) (cs : List Char) : Option (List UInt8) := decodeFrom readable ⟨0, 0, 0⟩ cs

/-- The bytes that a text of either alphabet stands for, padding added where it is
missing. -/
def decodeBare? (cs : List Char) : Option (List UInt8) := decode? .either (pad cs)

/-- The bytes that text of either alphabet, itself in bytes, stands for, padding added
where it is missing. -/
def decodeBytes? (text : List UInt8) : Option (List UInt8) :=
  decodeBare? (text.map fun b => Char.ofNat b.toNat)

end Gatehouse.Base64
