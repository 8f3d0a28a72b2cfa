import Gatehouse.Text.Blank

/-!
# Numbers with fractions written as text

Such a number may have blanks around it, a sign, a fraction and an exponent; its digits
may be of any script, and a single underscore may stand between two of them. Infinity
and what is no number have names.
-/

namespace Gatehouse.FloatText

/-- Digits of every script as ASCII ones. -/
def plainDigit (c : Char) : Char :=
  match Text.digitValue? c with
  | some d => Char.ofNat (0x30 + d)
  | none => c

/-- The characters without underscores, if each one stands between two digits;
`afterDigit` tells whether a digit came before. -/
def joined? (afterDigit : Bool) : List Char → Option (List Char)
  | [] => some []
  | '_' :: c :: rest =>
    if afterDigit && c.isDigit then (joined? true rest).map (c :: ·) else none
  | c :: rest => if c = '_' then none else (joined? c.isDigit rest).map (c :: ·)

/-- What follows a sign, if there is one. -/
def dropSign : List Char → List Char
  | '-' :: rest => rest
  | '+' :: rest => rest
  | cs => cs

/-- Whether nothing is left, or an exponent alone. -/
def isExponent : List Char → Bool
  | [] => true
  | c :: rest =>
    let digits := dropSign rest
    (c = 'e' || c = 'E') && !digits.isEmpty && digits.all Char.isDigit

/-- Whether digits come next, with a fraction and an exponent behind them if need be. -/
def isDecimal (cs : List Char) : Bool :=
  let whole := cs.takeWhile Char.isDigit
  match cs.dropWhile Char.isDigit with
  | '.' :: rest =>
    let fraction := rest.takeWhile Char.isDigit
    !(whole.isEmpty && fraction.isEmpty) && isExponent (rest.dropWhile Char.isDigit)
  | rest => !whole.isEmpty && isExponent rest

/-- The names of what has no digits. -/
def names : List (List Char) := ["inf".toList, "infinity".toList, "nan".toList]

/-- Whether a text stands for a number. -/
def isNumber (cs : List Char) : Bool :=
  match joined? false ((Text.trimMargins cs).map plainDigit) with
  | none => false
  | some cs =>
    let body := dropSign cs
    names.contains (body.map Char.toLower) || isDecimal body

end Gatehouse.FloatText
