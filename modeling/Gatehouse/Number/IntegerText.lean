import Gatehouse.Text.Blank

/-!
# Whole numbers written as text

A whole number may have blanks around it and a sign in front; its digits may be
of any script, and a single underscore may stand between two of them. More than
4300 digits are refused.
-/

namespace Gatehouse.IntegerText

/-- The longest run of digits that is read as a number. -/
def maxDigits : Nat := 4300

/-- The values of digits with single underscores between them. -/
def digits? (value? : Char → Option Nat) : List Char → Option (List Nat)
  | [] => none
  | [c] => (value? c).map ([·])
  | c :: '_' :: rest => do
    let d ← value? c
    let ds ← digits? value? rest
    pure (d :: ds)
  | c :: rest => do
    let d ← value? c
    let ds ← digits? value? rest
    pure (d :: ds)

/-- The number that a list of decimal digits stands for. -/
def ofDigits (ds : List Nat) : Nat := ds.foldl (fun n d => n * 10 + d) 0

/-- A sign and what follows it. -/
def splitSign : List Char → Bool × List Char
  | '-' :: rest => (true, rest)
  | '+' :: rest => (false, rest)
  | rest => (false, rest)

/-- The whole number that a text stands for. -/
def parse? (cs : List Char) : Option Int := do
  let (negative, body) := splitSign (Text.trimMargins cs)
  let ds ← digits? Text.digitValue? body
  if maxDigits < ds.length then none
  else
    let n := ofDigits ds
    pure (if negative then -(n : Int) else n)

end Gatehouse.IntegerText
