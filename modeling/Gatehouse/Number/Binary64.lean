/-!
# Binary floating point numbers

A number is a sign, a whole mantissa below `2^53` and a power of two, kept in the
one form in which the mantissa is as large as the range allows, so that equal
numbers are equal terms, zero with its two signs apart. Every ratio of whole
numbers rounds to one of them, the nearest, and of two equally near the one with
the even mantissa. Rounding divides out common factors first: it sees the ratio
and not the pair.
-/

namespace Gatehouse

/-- The one form of a finite number. -/
def Binary64.Canonical (mantissa : Nat) (exponent : Int) : Prop :=
  mantissa < Nat.pow 2 53 ∧ -1074 ≤ exponent ∧ exponent ≤ 971 ∧
    (Nat.pow 2 52 ≤ mantissa ∨ exponent = -1074)

instance (m : Nat) (e : Int) : Decidable (Binary64.Canonical m e) := by
  unfold Binary64.Canonical; infer_instance

/-- A floating point number of 64 bits. -/
inductive Binary64 where
  | nan
  | infinite (negative : Bool)
  | finite (negative : Bool) (mantissa : Nat) (exponent : Int)
      (canonical : Binary64.Canonical mantissa exponent)
deriving DecidableEq

namespace Binary64

def zero (negative : Bool) : Binary64 := .finite negative 0 (-1074) (by decide)

instance : Inhabited Binary64 := ⟨zero false⟩

/-- The number with this mantissa and exponent; what lies above the range is infinite. -/
def pack (negative : Bool) (mantissa : Nat) (exponent : Int) : Binary64 :=
  if h : Canonical mantissa exponent then .finite negative mantissa exponent h
  else .infinite negative

/-- `num / den` to the nearest whole number, halves to the even one. -/
def roundHalfEven (num den : Nat) : Nat :=
  let q := num / den
  let r := num % den
  if den < 2 * r ∨ (2 * r = den ∧ q % 2 = 1) then q + 1 else q

/-- `num / den` divided by two to the power `e`, as a ratio again. -/
def scaleDown (num den : Nat) (e : Int) : Nat × Nat :=
  if 0 ≤ e then (num, den * Nat.pow 2 e.toNat) else (num * Nat.pow 2 (-e).toNat, den)

/-- The largest `t` for which two to the power `t` is at most `num / den`. -/
def floorLog2 (num den : Nat) : Int :=
  let t : Int := (Nat.log2 num : Int) - Nat.log2 den
  let (n, d) := scaleDown num den t
  if d ≤ n then t else t - 1

/-- Rounds a ratio without common factors. -/
def roundReduced (negative : Bool) (num den : Nat) : Binary64 :=
  if num = 0 then zero negative
  else
    let e := max (floorLog2 num den - 52) (-1074)
    let (n, d) := scaleDown num den e
    let m := roundHalfEven n d
    if m = Nat.pow 2 53 then pack negative (Nat.pow 2 52) (e + 1) else pack negative m e

/-- The number nearest to `num / den`. -/
def ofRatio (negative : Bool) (num den : Nat) : Binary64 :=
  let g := Nat.gcd num den
  roundReduced negative (num / g) (den / g)

/-- The number nearest to `digits` times ten to the power `e`. Powers far outside
the range are not computed. -/
def ofDecimal (negative : Bool) (digits : Nat) (e : Int) : Binary64 :=
  if digits = 0 then zero negative
  else
    let magnitude := (Nat.log2 digits : Int) / 4 + e
    if 400 < magnitude then .infinite negative
    else if (Nat.log2 digits : Int) / 3 + e < -400 then zero negative
    else if 0 ≤ e then ofRatio negative (digits * Nat.pow 10 e.toNat) 1
    else ofRatio negative digits (Nat.pow 10 (-e).toNat)

/-- The number nearest to a whole number. -/
def ofInt (n : Int) : Binary64 := ofRatio (n < 0) n.natAbs 1

/-- The size of a finite number as a ratio. -/
def ratio (mantissa : Nat) (exponent : Int) : Nat × Nat :=
  if 0 ≤ exponent then (mantissa * Nat.pow 2 exponent.toNat, 1)
  else (mantissa, Nat.pow 2 (-exponent).toNat)

def isFinite : Binary64 → Bool
  | .finite .. => true
  | _ => false

/-- The whole part, cut off toward zero. -/
def truncate? : Binary64 → Option Int
  | .finite negative m e _ =>
    let (n, d) := ratio m e
    some (if negative then -((n / d : Nat) : Int) else (n / d : Nat))
  | _ => none

/-- The whole number this is, if it is one. -/
def wholeValue? : Binary64 → Option Int
  | .finite negative m e _ =>
    let (n, d) := ratio m e
    if n % d = 0 then some (if negative then -((n / d : Nat) : Int) else (n / d : Nat)) else none
  | _ => none

/-- The number times `scale`, to the nearest whole number, halves to the even one. -/
def scaled? (scale : Nat) : Binary64 → Option Int
  | .finite negative m e _ =>
    let (n, d) := ratio m e
    let r := roundHalfEven (n * scale) d
    some (if negative then -(r : Int) else r)
  | _ => none

/-- Equality as numbers: the two zeros are equal and nothing equals `nan`. -/
def same : Binary64 → Binary64 → Bool
  | .nan, _ => false
  | _, .nan => false
  | .finite s m e _, .finite s' m' e' _ => m == m' && e == e' && (s == s' || m == 0)
  | .infinite s, .infinite s' => s == s'
  | _, _ => false

def isZero : Binary64 → Bool
  | .finite _ m _ _ => m == 0
  | _ => false

end Binary64

end Gatehouse
