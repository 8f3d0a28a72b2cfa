/-!
# UTF-8

Text leaves and enters the program as bytes. Reading goes byte by byte: a lead
byte says how many bytes follow and narrows the second one, so that no overlong
form, no surrogate and nothing above the last code point is read as a character.
A sequence that breaks off counts as one broken piece, and the byte that broke it
is looked at again as the start of the next one.
-/

namespace Gatehouse.Text.Utf8

/-- The bytes of one character. -/
def encodeChar (c : Char) : List UInt8 :=
  let n := c.toNat
  if n < 0x80 then [UInt8.ofNat n]
  else if n < 0x800 then
    [UInt8.ofNat (0xc0 + n / 0x40), UInt8.ofNat (0x80 + n % 0x40)]
  else if n < 0x10000 then
    [UInt8.ofNat (0xe0 + n / 0x1000), UInt8.ofNat (0x80 + n / 0x40 % 0x40),
      UInt8.ofNat (0x80 + n % 0x40)]
  else
    [UInt8.ofNat (0xf0 + n / 0x40000), UInt8.ofNat (0x80 + n / 0x1000 % 0x40),
      UInt8.ofNat (0x80 + n / 0x40 % 0x40), UInt8.ofNat (0x80 + n % 0x40)]

/-- The bytes of a text. -/
def encode (cs : List Char) : List UInt8 := cs.flatMap encodeChar

/-- A sequence under way: `missing` more bytes, the next one between `low` and
`high`, and the code point gathered so far. -/
structure Pending where
  missing : Nat
  low : Nat
  high : Nat
  gathered : Nat

/-- What a byte at the start of a sequence means. -/
inductive Start where
  | character (c : Char)
  | lead (p : Pending)
  | broken

def start (b : UInt8) : Start :=
  let n := b.toNat
  if n < 0x80 then .character (Char.ofNat n)
  else if n < 0xc2 then .broken
  else if n < 0xe0 then .lead ⟨1, 0x80, 0xbf, n - 0xc0⟩
  else if n = 0xe0 then .lead ⟨2, 0xa0, 0xbf, 0⟩
  else if n = 0xed then .lead ⟨2, 0x80, 0x9f, 0xd⟩
  else if n < 0xf0 then .lead ⟨2, 0x80, 0xbf, n - 0xe0⟩
  else if n = 0xf0 then .lead ⟨3, 0x90, 0xbf, 0⟩
  else if n < 0xf4 then .lead ⟨3, 0x80, 0xbf, n - 0xf0⟩
  else if n = 0xf4 then .lead ⟨3, 0x80, 0x8f, 4⟩
  else .broken

/-- The characters of a byte sequence, `none` for each broken piece. -/
def scanFrom : Option Pending → List UInt8 → List (Option Char)
  | none, [] => []
  | some _, [] => [none]
  | none, b :: rest =>
    match start b with
    | .character c => some c :: scanFrom none rest
    | .lead p => scanFrom (some p) rest
    | .broken => none :: scanFrom none rest
  | some p, b :: rest =>
    if p.low ≤ b.toNat ∧ b.toNat ≤ p.high then
      let gathered := p.gathered * 0x40 + b.toNat % 0x40
      if p.missing ≤ 1 then some (Char.ofNat gathered) :: scanFrom none rest
      else scanFrom (some ⟨p.missing - 1, 0x80, 0xbf, gathered⟩) rest
    else
      match start b with
      | .character c => none :: some c :: scanFrom none rest
      | .lead q => none :: scanFrom (some q) rest
      | .broken => none :: none :: scanFrom none rest

/-- The text of well-formed bytes. -/
def decode? (bytes : List UInt8) : Option (List Char) := (scanFrom none bytes).mapM id

/-- The text of any bytes, each broken piece shown as the replacement character. -/
def decodeLossy (bytes : List UInt8) : List Char :=
  (scanFrom none bytes).map (·.getD (Char.ofNat 0xfffd))

/-- The text of well-formed bytes, as a string. -/
def text? (bytes : List UInt8) : Option String := (decode? bytes).map String.ofList

/-- The bytes of a string. -/
def bytes (s : String) : List UInt8 := encode s.toList

end Gatehouse.Text.Utf8
