import Gatehouse.Number.Binary64

/-!
# The shortest decimal that reads back

A number is written with the fewest decimal digits that round to it again. On the
grid of `p` digits only the two neighbours of the number can be the nearest, so
grids of one, two, up to seventeen digits are tried and the first neighbour that
reads back is taken; if both do, the nearer one, and of two equally near the even
one. Positional notation is used from `0.0001` up to below `10^16`.
-/

namespace Gatehouse.Binary64

/-- `num / den` divided by ten to the power `e`, as a ratio again. -/
def scaleDownTen (num den : Nat) (e : Int) : Nat × Nat :=
  if 0 ≤ e then (num, den * Nat.pow 10 e.toNat) else (num * Nat.pow 10 (-e).toNat, den)

/-- The neighbours of `num / den` on the grid of ten to the power `e` that read
back as `x`, the preferred one first. -/
def neighbour? (x : Binary64) (num den : Nat) (e : Int) : Option Nat :=
  let (n, d) := scaleDownTen num den e
  let below := n / d
  let r := n % d
  let upFirst := d < 2 * r || (2 * r == d && below % 2 == 1)
  let candidates := if upFirst then [below + 1, below] else [below, below + 1]
  candidates.find? fun c => ofDecimal false c e = x

/-- The place of the first decimal digit: ten to this power is at most `num / den`. -/
def leadingPlace (num den : Nat) : Int :=
  let guess : Int := (floorLog2 num den * 30103) / 100000
  let (n, d) := scaleDownTen num den (guess + 1)
  if d ≤ n then guess + 1 else guess

/-- Digits and power of ten of the exact value. -/
def exactDecimal (mantissa : Nat) (exponent : Int) : Nat × Int :=
  if 0 ≤ exponent then (mantissa * Nat.pow 2 exponent.toNat, 0)
  else (mantissa * Nat.pow 5 (-exponent).toNat, exponent)

/-- Digits and power of ten of the shortest decimal that reads back. -/
def shortest (mantissa : Nat) (exponent : Int) : Nat × Int :=
  let x := pack false mantissa exponent
  let (num, den) := ratio mantissa exponent
  let first := leadingPlace num den
  let tries := (List.range 17).findSome? fun (p : Nat) =>
    let e := first - p
    (neighbour? x num den e).map fun c => (c, e)
  tries.getD (exactDecimal mantissa exponent)

/-- The digits without the zeros at their end. -/
def trimZeros (digits : List Char) : List Char :=
  (digits.reverse.dropWhile (· == '0')).reverse

/-- Digits with the decimal point behind the first `place` of them, zeros filled
in where there are no digits. -/
def positional (digits : List Char) (place : Int) : List Char :=
  if place ≤ 0 then '0' :: '.' :: List.replicate (-place).toNat '0' ++ digits
  else
    let k := place.toNat
    let whole := digits.take k ++ List.replicate (k - digits.length) '0'
    let fraction := digits.drop k
    whole ++ '.' :: (if fraction.isEmpty then ['0'] else fraction)

/-- An exponent with its sign and at least two digits. -/
def exponentText (e : Int) : List Char :=
  let digits := Nat.toDigits 10 e.natAbs
  (if e < 0 then '-' else '+') :: List.replicate (2 - digits.length) '0' ++ digits

/-- The text of the size of a finite number. -/
def magnitudeText (mantissa : Nat) (exponent : Int) : List Char :=
  if mantissa = 0 then ['0', '.', '0']
  else
    let (c, e) := shortest mantissa exponent
    let all := Nat.toDigits 10 c
    let digits := trimZeros all
    let place : Int := all.length + e
    if -4 < place ∧ place ≤ 16 then positional digits place
    else
      let head := digits.take 1
      let tail := digits.drop 1
      head ++ (if tail.isEmpty then [] else '.' :: tail) ++ 'e' :: exponentText (place - 1)

/-- The text of a number; `nan`, `inf` and `-inf` where there are no digits. -/
def text : Binary64 → String
  | .nan => "nan"
  | .infinite false => "inf"
  | .infinite true => "-inf"
  | .finite negative m e _ =>
    String.ofList ((if negative then ['-'] else []) ++ magnitudeText m e)

end Gatehouse.Binary64
