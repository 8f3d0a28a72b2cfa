import Gatehouse.Failure.Kind
import Gatehouse.Identity
import Gatehouse.Number.Binary64
import Gatehouse.Route.Tree
import Gatehouse.Value.Rank

/-!
# Values that an application hands over

Route declarations, results of handlers, session contents and arguments of errors
come from the application and may be anything. The kinds of value that the program
tells apart are listed here; `κ` is the type of callables.
-/

namespace Gatehouse

inductive Value (κ : Type) where
  | none
  | bool (b : Bool)
  | int (n : Int)
  | float (x : Binary64)
  | str (s : String)
  /-- A text with a half of a surrogate pair that has no partner. -/
  | unpaired (points : List Nat)
  | bytes (bs : List UInt8)
  | list (items : List (Value κ))
  | tuple (items : List (Value κ))
  | set (items : List (Value κ))
  | frozenset (items : List (Value κ))
  | dict (entries : List (Value κ × Value κ))
  | callable (f : κ)
  | tree (t : RouteTree κ)
  | identity (subject role : Value κ)
  | profile (p : Profile)
  | health (h : Health)
  | kind (k : ErrorKind)
  /-- An object of which only the word for its type is known, and its place among others if it
  can be put in order. -/
  | thing (word : String) (rank : Option Rank := none)
deriving Inhabited

/-- A value without behaviour: callables are known by name only. -/
abbrev Datum := Value String

namespace Value

variable {κ : Type}

/-- The word for the type of a value. -/
def typeName : Value κ → String
  | .none => "NoneType"
  | .bool _ => "bool"
  | .int _ => "int"
  | .float _ => "float"
  | .str _ | .unpaired _ => "str"
  | .bytes _ => "bytes"
  | .list _ => "list"
  | .tuple _ => "tuple"
  | .set _ => "set"
  | .frozenset _ => "frozenset"
  | .dict _ => "dict"
  | .callable _ => "function"
  | .tree _ => "RouteSpec"
  | .identity _ _ => "Identity"
  | .profile _ => "IdentityResponse"
  | .health _ => "HealthResponse"
  | .kind _ => "ErrorKind"
  | .thing word _ => word

/-- Whether a value counts as given: nothing, zero and what is empty do not. -/
def isTruthy : Value κ → Bool
  | .none => false
  | .bool b => b
  | .int n => n != 0
  | .float x => !x.isZero
  | .str s => !s.isEmpty
  | .bytes bs => !bs.isEmpty
  | .list items | .tuple items | .set items | .frozenset items => !items.isEmpty
  | .dict entries => !entries.isEmpty
  | _ => true

/-- The members of a profile and of a health report as pairs. -/
def profileFields (p : Profile) : List (String × Value κ) :=
  [("subject", .str p.subject), ("role", .str p.role)]

def healthFields (h : Health) : List (String × Value κ) :=
  [("status", .str h.status), ("service", .str h.service), ("version", .str h.version)]

/-- One code point as a text. -/
def ofPoint (n : Nat) : Value κ :=
  if n.isValidChar then .str (String.singleton (Char.ofNat n)) else .unpaired [n]

/-- What there is when a value is gone through item by item. -/
def items? : Value κ → Option (List (Value κ))
  | .str s => some (s.toList.map fun c => .str (String.singleton c))
  | .unpaired points => some (points.map ofPoint)
  | .bytes bs => some (bs.map fun b => .int b.toNat)
  | .list items | .tuple items | .set items | .frozenset items => some items
  | .dict entries => some (entries.map (·.1))
  | .profile p => some ((profileFields p).map fun (k, v) => .tuple [.str k, v])
  | .health h => some ((healthFields h).map fun (k, v) => .tuple [.str k, v])
  | _ => Option.none

mutual

/-- The value that JSON denotes. -/
def ofJson : Json → Value κ
  | .null => .none
  | .bool b => .bool b
  | .int n => .int n
  | .float x => .float x
  | .str s => .str s
  | .unpaired points => .unpaired points
  | .arr items => .list (ofJsonItems items)
  | .obj members => .dict (ofJsonMembers members)

def ofJsonItems : List Json → List (Value κ)
  | [] => []
  | v :: rest => ofJson v :: ofJsonItems rest

def ofJsonMembers : List (String × Json) → List (Value κ × Value κ)
  | [] => []
  | (k, v) :: rest => (.str k, ofJson v) :: ofJsonMembers rest

end

/-- An identity as a value. -/
def ofIdentity (i : Identity) : Value κ := .identity (ofJson i.subject) (ofJson i.role)

end Value

end Gatehouse
