import Gatehouse.Json.Basic
import Gatehouse.Number.IntegerText
import Gatehouse.Number.Shortest
import Gatehouse.Text.Hex

/-!
# JSON text from values

There are three ways of writing. Tokens and sessions are written in ASCII,
bodies of responses keep every printable character; tokens and bodies leave no
blank, sessions have one after each comma and colon. Numbers that are not finite
are written as words, and whole numbers with too many digits are not to be written.
-/

namespace Gatehouse.Json

/-- How JSON text is laid out. -/
structure Style where
  /-- Whether characters outside ASCII are escaped. -/
  asciiOnly : Bool
  comma : List Char
  colon : List Char

/-- No blanks, every character of a text as it is. -/
def Style.compact : Style := ⟨false, [','], [':']⟩

/-- No blanks, ASCII only. -/
def Style.compactAscii : Style := ⟨true, [','], [':']⟩

/-- A blank after each separator, ASCII only. -/
def Style.spacedAscii : Style := ⟨true, [',', ' '], [':', ' ']⟩

/-- A code unit of sixteen bits as an escape. -/
def unitEscape (n : Nat) : List Char := '\\' :: 'u' :: Text.Hex.padded 4 n

/-- How one character stands inside a quoted text. -/
def escapeChar (asciiOnly : Bool) (c : Char) : List Char :=
  if c = '"' then ['\\', '"']
  else if c = '\\' then ['\\', '\\']
  else if c = '\n' then ['\\', 'n']
  else if c = '\r' then ['\\', 'r']
  else if c = '\t' then ['\\', 't']
  else if c = Char.ofNat 8 then ['\\', 'b']
  else if c = Char.ofNat 12 then ['\\', 'f']
  else if c.toNat < 0x20 then unitEscape c.toNat
  else if asciiOnly && 0x7f ≤ c.toNat then
    if c.toNat < 0x10000 then unitEscape c.toNat
    else
      let n := c.toNat - 0x10000
      unitEscape (0xd800 + n / 0x400) ++ unitEscape (0xdc00 + n % 0x400)
  else [c]

/-- A text between quotes. -/
def quote (asciiOnly : Bool) (s : String) : List Char :=
  '"' :: s.toList.flatMap (escapeChar asciiOnly) ++ ['"']

/-- A code point between quotes; half of a surrogate pair is always an escape. -/
def escapePoint (asciiOnly : Bool) (n : Nat) : List Char :=
  if n.isValidChar then escapeChar asciiOnly (Char.ofNat n) else unitEscape n

/-- The text of a floating point number. -/
def floatText : Binary64 → List Char
  | .nan => ['N', 'a', 'N']
  | .infinite false => "Infinity".toList
  | .infinite true => "-Infinity".toList
  | x => x.text.toList

mutual

/-- The text of a value. -/
def print (style : Style) : Json → List Char
  | .null => ['n', 'u', 'l', 'l']
  | .bool true => ['t', 'r', 'u', 'e']
  | .bool false => ['f', 'a', 'l', 's', 'e']
  | .int n => (toString n).toList
  | .float x => floatText x
  | .str s => quote style.asciiOnly s
  | .unpaired points => '"' :: points.flatMap (escapePoint style.asciiOnly) ++ ['"']
  | .arr items => '[' :: printItems style items ++ [']']
  | .obj members => '{' :: printMembers style members ++ ['}']

def printItems (style : Style) : List Json → List Char
  | [] => []
  | [v] => print style v
  | v :: rest => print style v ++ style.comma ++ printItems style rest

def printMembers (style : Style) : List (String × Json) → List Char
  | [] => []
  | [(k, v)] => quote style.asciiOnly k ++ style.colon ++ print style v
  | (k, v) :: rest =>
    quote style.asciiOnly k ++ style.colon ++ print style v ++ style.comma ++
      printMembers style rest

end

/-- The text of a value as a string. -/
def render (style : Style) (v : Json) : String := String.ofList (print style v)

/-- Whether a whole number has few enough digits to be read or written. -/
def isShort (n : Int) : Bool :=
  (Nat.toDigits 10 n.natAbs).length ≤ IntegerText.maxDigits

mutual

/-- Whether no whole number in a value has too many digits. -/
def isWritable : Json → Bool
  | .int n => isShort n
  | .arr items => areWritable items
  | .obj members => membersAreWritable members
  | _ => true

def areWritable : List Json → Bool
  | [] => true
  | v :: rest => v.isWritable && areWritable rest

def membersAreWritable : List (String × Json) → Bool
  | [] => true
  | (_, v) :: rest => v.isWritable && membersAreWritable rest

end

theorem areWritable_iff {items : List Json} :
    areWritable items = true ↔ ∀ v ∈ items, v.isWritable = true := by
  induction items with
  | nil => simp [areWritable]
  | cons v rest ih => rw [areWritable, Bool.and_eq_true, List.forall_mem_cons, ih]

theorem membersAreWritable_iff {members : List (String × Json)} :
    membersAreWritable members = true ↔ ∀ m ∈ members, m.2.isWritable = true := by
  induction members with
  | nil => simp [membersAreWritable]
  | cons m rest ih =>
      obtain ⟨name, v⟩ := m
      rw [membersAreWritable, Bool.and_eq_true, List.forall_mem_cons, ih]

end Gatehouse.Json
