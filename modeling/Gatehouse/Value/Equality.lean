import Gatehouse.Value.Basic

/-!
# When two values are the same key

Numbers are equal across their types, and the truth values are the numbers zero
and one. A mapping with any values as keys is a list of pairs in which a later
equal key replaces the value and keeps the place.
-/

namespace Gatehouse.Value

variable {κ : Type}

/-- A number as a whole number, if it is one. -/
def whole? : Value κ → Option Int
  | .bool b => some (if b then 1 else 0)
  | .int n => some n
  | .float x => x.wholeValue?
  | _ => Option.none

/-- A number as far as order goes. -/
def extent? : Value κ → Option Extent
  | .bool b => some (.finite (if b then 1 else 0) 1)
  | .int n => some (.finite n 1)
  | .float .nan => some .nowhere
  | .float (.infinite negative) => some (.infinite negative)
  | .float (.finite negative m e _) =>
    let (n, d) := Binary64.ratio m e
    some (.finite (if negative then -(n : Int) else n) d)
  | _ => Option.none

/-- The place of a value without parts in an order, if it has one. -/
def rank? : Value κ → Option Rank
  | .thing _ rank => rank
  | v => v.extent?.map .ofNumber

/-- Equality of values without parts. -/
def sameAtom : Value κ → Value κ → Bool
  | .none, .none => true
  | .float x, .float y => x.same y
  | .str s, .str t => s == t
  | .unpaired s, .unpaired t => s == t
  | .bytes s, .bytes t => s == t
  | .profile i, .profile j => i == j
  | .health i, .health j => i == j
  | .kind i, .kind j => i == j
  | v, w =>
    match v.whole?, w.whole? with
    | some m, some n => m == n
    | _, _ => Rank.agree v.rank? w.rank?

mutual

/-- Equality of values. Callables, and objects without a place in an order, equal nothing. -/
def same : Value κ → Value κ → Bool
  | .list xs, .list ys | .tuple xs, .tuple ys => sameItems xs ys
  | .set xs, .set ys | .set xs, .frozenset ys
  | .frozenset xs, .set ys | .frozenset xs, .frozenset ys =>
    xs.length == ys.length && sameMembers xs ys
  | .dict xs, .dict ys => xs.length == ys.length && sameEntries xs ys
  | .identity s r, .identity s' r' => same s s' && same r r'
  | v, w => sameAtom v w

def sameItems : List (Value κ) → List (Value κ) → Bool
  | [], [] => true
  | x :: xs, y :: ys => same x y && sameItems xs ys
  | _, _ => false

def sameMembers : List (Value κ) → List (Value κ) → Bool
  | [], _ => true
  | x :: xs, ys => ys.any (fun y => same x y) && sameMembers xs ys

def sameEntries : List (Value κ × Value κ) → List (Value κ × Value κ) → Bool
  | [], _ => true
  | (k, v) :: xs, ys => ys.any (fun (k', v') => same k k' && same v v') && sameEntries xs ys

end

theorem same_str (v : Value κ) (s : String) : v.same (.str s) = true ↔ v = .str s := by
  cases v <;> simp [same, sameAtom, whole?, rank?, extent?]

theorem same_str_str (s t : String) : (Value.str s : Value κ).same (.str t) = (s == t) := by
  rw [Bool.eq_iff_iff, same_str, str.injEq, beq_iff_eq]

/-- Pairs with `key` bound to `value`. -/
def putEntry (key value : Value κ) : List (Value κ × Value κ) → List (Value κ × Value κ)
  | [] => [(key, value)]
  | (k, v) :: rest => if same k key then (k, value) :: rest else (k, v) :: putEntry key value rest

/-- The value under `key`. -/
def entry? (key : Value κ) : List (Value κ × Value κ) → Option (Value κ)
  | [] => Option.none
  | (k, v) :: rest => if same k key then some v else entry? key rest

theorem exists_of_entry? {key value : Value κ} {entries : List (Value κ × Value κ)}
    (h : entry? key entries = some value) : ∃ k, (k, value) ∈ entries ∧ k.same key = true := by
  induction entries with
  | nil => cases h
  | cons e entries ih =>
    obtain ⟨k, v⟩ := e
    rw [Value.entry?] at h
    split at h
    · next hsame =>
      injection h with h
      subst h
      exact ⟨k, List.mem_cons_self, hsame⟩
    · obtain ⟨k', hk', hsame⟩ := ih h
      exact ⟨k', List.mem_cons_of_mem _ hk', hsame⟩

/-- The pairs without that of `key`. -/
def eraseEntry (key : Value κ) (entries : List (Value κ × Value κ)) : List (Value κ × Value κ) :=
  entries.filter fun e => !same e.1 key

mutual

/-- The type of the part for which a value cannot be a key: what can be changed has no
place in a mapping or a set. -/
def unhashable? : Value κ → Option String
  | .list _ => some "list"
  | .set _ => some "set"
  | .dict _ => some "dict"
  | .tree _ => some "mappingproxy"
  | .profile _ => some "IdentityResponse"
  | .health _ => some "HealthResponse"
  | .tuple items => firstUnhashable? items
  | .identity subject role => (unhashable? subject).or (unhashable? role)
  | _ => Option.none

def firstUnhashable? : List (Value κ) → Option String
  | [] => Option.none
  | v :: rest => (unhashable? v).or (firstUnhashable? rest)

end

def isHashable (v : Value κ) : Bool := (unhashable? v).isNone

end Gatehouse.Value
