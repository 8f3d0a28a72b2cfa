/-!
# Why values are refused

A record is made of named values, each of which is taken or refused for a reason. All
values are looked at, so that all complaints can be reported together, in the order of
the record.
-/

namespace Gatehouse

/-- Where a value stands: under a name, and there as an item of a list. -/
inductive Place where
  | member (name : String)
  | item (index : Nat)
deriving DecidableEq, Repr

/-- Why a value is refused. -/
inductive Refusal where
  /-- A value is needed and there is none. -/
  | missing
  | boolText
  | boolType
  | intText
  | intTextTooLong
  | intType
  | intFraction
  | notFinite
  | textType
  | textBytes
  | listType
  /-- The values together break a rule. -/
  | rule (text : String)
deriving DecidableEq, Repr

namespace Refusal

/-- A short name for the reason. -/
def code : Refusal → String
  | .missing => "missing"
  | .boolText => "bool_parsing"
  | .boolType => "bool_type"
  | .intText => "int_parsing"
  | .intTextTooLong => "int_parsing_size"
  | .intType => "int_type"
  | .intFraction => "int_from_float"
  | .notFinite => "finite_number"
  | .textType => "string_type"
  | .textBytes => "string_unicode"
  | .listType => "list_type"
  | .rule _ => "value_error"

def message : Refusal → String
  | .missing => "Field required"
  | .boolText => "Input should be a valid boolean, unable to interpret input"
  | .boolType => "Input should be a valid boolean"
  | .intText => "Input should be a valid integer, unable to parse string as an integer"
  | .intTextTooLong =>
    "Unable to parse input string as an integer, exceeded maximum size"
  | .intType => "Input should be a valid integer"
  | .intFraction => "Input should be a valid integer, got a number with a fractional part"
  | .notFinite => "Input should be a finite number"
  | .textType => "Input should be a valid string"
  | .textBytes =>
    "Input should be a valid string, unable to parse raw data as a unicode string"
  | .listType => "Input should be a valid list"
  | .rule text => "Value error, " ++ text

end Refusal

structure Complaint where
  place : List Place
  reason : Refusal
deriving DecidableEq, Repr

/-- A result that keeps all complaints. -/
abbrev Checked (α : Type) := Except (List Complaint) α

namespace Checked

variable {α β : Type}

/-- Applies a checked function to a checked value; complaints on both sides add up. -/
def apply (f : Checked (α → β)) (x : Checked α) : Checked β :=
  match f, x with
  | .ok f, .ok x => .ok (f x)
  | .ok _, .error e => .error e
  | .error e, .ok _ => .error e
  | .error e, .error e' => .error (e ++ e')

theorem apply_eq_ok_iff {f : Checked (α → β)} {x : Checked α} {b : β} :
    f.apply x = .ok b ↔ ∃ g a, f = .ok g ∧ x = .ok a ∧ g a = b := by
  cases f <;> cases x <;> simp [apply]

/-- The value of a member, once it was taken or refused. -/
def ofMember (name : String) (x : Except Refusal α) : Checked α :=
  x.mapError fun reason => [⟨[.member name], reason⟩]

theorem ofMember_eq_ok_iff {name : String} {x : Except Refusal α} {a : α} :
    ofMember name x = .ok a ↔ x = .ok a := by
  cases x with
  | error reason => exact iff_of_false nofun nofun
  | ok b =>
    constructor <;>
    · rintro ⟨⟩
      rfl

end Checked

end Gatehouse
