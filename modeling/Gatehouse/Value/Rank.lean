/-!
# Places in an order

Objects of some kinds can be put in order among themselves. What is known of one is the kind
that it can be compared with, and its place there. Numbers are one kind, whatever their type.
-/

namespace Gatehouse

/-- A place as far as order goes: a ratio with a positive second part, or beyond all
ratios, or in no place at all. -/
inductive Extent where
  | finite (num : Int) (den : Nat)
  | infinite (negative : Bool)
  | nowhere

namespace Extent

def before : Extent → Extent → Bool
  | .finite n d, .finite n' d' => decide (n * d' < n' * d)
  | .finite _ _, .infinite negative => !negative
  | .infinite negative, .finite _ _ => negative
  | .infinite negative, .infinite negative' => negative && !negative'
  | _, _ => false

/-- Whether two places are one. What is in no place is not even where it is itself. -/
def same : Extent → Extent → Bool
  | .finite n d, .finite n' d' => n * d' == n' * d
  | .infinite negative, .infinite negative' => negative == negative'
  | _, _ => false

end Extent

/-- What an object can be compared with, and its place among that. -/
structure Rank where
  kind : String
  extent : Extent

namespace Rank

def ofNumber (extent : Extent) : Rank := ⟨"number", extent⟩

/-- Whether one object comes before the other, if they can be compared. -/
def before? (a b : Rank) : Option Bool :=
  if a.kind = b.kind then some (a.extent.before b.extent) else none

def same (a b : Rank) : Bool := a.kind == b.kind && a.extent.same b.extent

/-- Whether there are two places and they are one. -/
def agree : Option Rank → Option Rank → Bool
  | some a, some b => a.same b
  | _, _ => false

@[simp] theorem agree_none_left (b : Option Rank) : agree none b = false := rfl

@[simp] theorem agree_none_right (a : Option Rank) : agree a none = false := by
  cases a <;> rfl

end Rank

end Gatehouse
