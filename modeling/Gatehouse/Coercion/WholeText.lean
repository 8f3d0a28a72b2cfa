import Gatehouse.Coercion.Complaint
import Gatehouse.Number.IntegerText

/-!
# Whole numbers in texts of settings

A text that is nothing but a sign and digits without needless zeros is read as it is, and
only here the number of digits is limited. Any other text is tidied up first: margins, a
plus sign, zeros in front, zeros behind a point and single underscores between digits do
not change what a number is. What is left must be a plain number.
-/

namespace Gatehouse.Coercion

def asciiDigit? (c : Char) : Option Nat :=
  if '0' ≤ c ∧ c ≤ '9' then some (c.toNat - 48) else none

def isAsciiDigit (c : Char) : Bool := (asciiDigit? c).isSome

/-- A sign, if there is a minus, and digits without a needless zero in front. -/
def splitPlain? (cs : List Char) : Option (Bool × List Char × List Char) :=
  let (negative, body) :=
    match cs with
    | '-' :: rest => (true, rest)
    | _ => (false, cs)
  let digits := body.takeWhile isAsciiDigit
  match digits with
  | [] => none
  | '0' :: _ :: _ => none
  | _ => some (negative, digits, body.dropWhile isAsciiDigit)

/-- The number that digits stand for. -/
def ofPlain (negative : Bool) (digits : List Char) : Int :=
  let n : Int := IntegerText.ofDigits (digits.filterMap asciiDigit?)
  if negative then -n else n

/-- The number that a whole text is, without anything to tidy up. -/
def plainInt (cs : List Char) : Except Refusal Int :=
  match splitPlain? cs with
  | none => .error .intText
  | some (negative, digits, rest) =>
    if IntegerText.maxDigits < digits.length then .error .intTextTooLong
    else if rest.isEmpty then .ok (ofPlain negative digits)
    else .error .intText

/-- Behind a zero: the text from the first digit or minus sign that matters. In front of a
point one zero stays, and of nothing but zeros the last. -/
def afterZeros? (last : Char) : List Char → Option (List Char)
  | [] => some [last]
  | c :: rest =>
    if c = '0' || c = '_' then afterZeros? c rest
    else if c = '.' then some (last :: c :: rest)
    else if isAsciiDigit c || c = '-' then some (c :: rest)
    else none

/-- A text without needless zeros in front; it must start like a number. -/
def withoutZeros? : List Char → Option (List Char)
  | [] => none
  | c :: rest =>
    if c = '0' then afterZeros? c rest
    else if isAsciiDigit c || c = '-' then some (c :: rest)
    else none

/-- The part in front of a point that only zeros follow. -/
def withoutZeroFraction (cs : List Char) : List Char :=
  match cs.dropWhile (· != '.') with
  | '.' :: zeros =>
    if !zeros.isEmpty && zeros.all (· == '0') then cs.takeWhile (· != '.') else cs
  | _ => cs

/-- Whether two underscores stand side by side. -/
def hasDoubleUnderscore : List Char → Bool
  | '_' :: '_' :: _ => true
  | _ :: rest => hasDoubleUnderscore rest
  | [] => false

/-- A text without its underscores, if each stands alone and inside. -/
def withoutUnderscores (cs : List Char) : List Char :=
  if cs.head? = some '_' || cs.getLast? = some '_' || hasDoubleUnderscore cs then cs
  else cs.filter (· != '_')

/-- A text without a plus sign; a minus sign must not follow it. -/
def withoutPlus? : List Char → Option (List Char)
  | '+' :: '-' :: _ => none
  | '+' :: rest => some rest
  | cs => some cs

/-- A text with all that does not change a number taken away. -/
def tidied? (cs : List Char) : Option (List Char) := do
  let cs ← withoutPlus? (Text.trimMargins cs)
  let cs ← withoutZeros? cs
  pure (withoutUnderscores (withoutZeroFraction cs))

/-- The whole number that a text stands for. -/
def intOfText (s : String) : Except Refusal Int :=
  match plainInt s.toList with
  | .error .intText =>
    match (tidied? s.toList).map plainInt with
    | some (.ok n) => .ok n
    | _ => .error .intText
  | known => known

end Gatehouse.Coercion
