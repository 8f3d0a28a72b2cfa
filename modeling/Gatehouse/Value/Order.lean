import Gatehouse.Value.Equality

/-!
# Sorting values

Numbers, texts, bytes, tuples and sets can be put in order among themselves, and so can objects
of some other kinds. Sorting stops at the first two values that cannot be compared and names
both. Which two values are compared matters, since a set or what is no number may come neither
before nor behind another: a list that starts in order or in reverse order is taken as far as
that goes, and each value behind it is put in its place, which is looked for by halves.
-/

namespace Gatehouse.Value

variable {κ : Type}

/-- The code points of a text. -/
def codePoints? : Value κ → Option (List Nat)
  | .str s => some (s.toList.map Char.toNat)
  | .unpaired points => some points
  | _ => Option.none

/-- Whether one value without parts comes before the other, if they can be compared. -/
def beforeAtom? (v w : Value κ) : Option Bool :=
  match v.codePoints?, w.codePoints? with
  | some s, some t => some (decide (s < t))
  | _, _ => do (← v.rank?).before? (← w.rank?)

/-- Whether all values of one list are in another. -/
def allIn (xs ys : List (Value κ)) : Bool := xs.all fun x => ys.any (same x)

mutual

/-- Whether one value comes before the other, or the two values for which there is no
telling. A set comes before every larger set that holds all of it. -/
def before : Value κ → Value κ → Except (Value κ × Value κ) Bool
  | .bytes s, .bytes t => .ok (decide (s.map (·.toNat) < t.map (·.toNat)))
  | .tuple xs, .tuple ys => itemsBefore xs ys
  | .frozenset xs, .frozenset ys => .ok (decide (xs.length < ys.length) && allIn xs ys)
  | v, w => (beforeAtom? v w).elim (.error (v, w)) .ok

def itemsBefore : List (Value κ) → List (Value κ) → Except (Value κ × Value κ) Bool
  | [], ys => .ok !ys.isEmpty
  | _ :: _, [] => .ok false
  | x :: xs, y :: ys => if same x y then itemsBefore xs ys else before x y

end

/-- Two values that have no order, or a result. -/
abbrev Sorting (κ α : Type) := Except (Value κ × Value κ) α

/-- The values that go on in one direction behind `v`, and those behind them. -/
def runBehind (down : Bool) (v : Value κ) :
    List (Value κ) → Sorting κ (List (Value κ) × List (Value κ))
  | [] => .ok ([], [])
  | w :: rest => do
    if (← before w v) = down then
      let (run, rest) ← runBehind down w rest
      pure (w :: run, rest)
    else pure ([], w :: rest)

/-- The values that stand in order in front, turned around if it is the reverse order, and
those behind them. -/
def firstRun : List (Value κ) → Sorting κ (List (Value κ) × List (Value κ))
  | v :: w :: rest => do
    let down ← before w v
    let (run, rest) ← runBehind down w rest
    let run := v :: w :: run
    pure (if down then run.reverse else run, rest)
  | vs => .ok (vs, [])

/-- Where a value belongs among sorted ones, behind the first `low` and not behind the first
`high`; so many halves are looked at. -/
def placeIn (sorted : List (Value κ)) (v : Value κ) : Nat → Nat → Nat → Sorting κ Nat
  | 0, low, _ => .ok low
  | halves + 1, low, high =>
    let middle := low + (high - low) / 2
    if low < high then do
      if ← before v (sorted.getD middle .none) then placeIn sorted v halves low middle
      else placeIn sorted v halves (middle + 1) high
    else .ok low

/-- Sorted values with one more in its place. -/
def insertSorted (sorted : List (Value κ)) (v : Value κ) : Sorting κ (List (Value κ)) := do
  let n ← placeIn sorted v sorted.length 0 sorted.length
  pure (sorted.take n ++ v :: sorted.drop n)

/-- The values in order, or the first pair found that has none. -/
def sort (vs : List (Value κ)) : Sorting κ (List (Value κ)) := do
  let (run, rest) ← firstRun vs
  rest.foldlM insertSorted run

end Gatehouse.Value
