import Gatehouse.Access.Policy
import Gatehouse.Route.SpecError

/-!
# Reading access rules

A declaration writes its rules loosely: one word or a mapping of verbs for who may
see a route, a list or a mapping of verbs to lists for the roles. Verbs and roles
that are not text are taken as text.
-/

namespace Gatehouse

variable {κ : Type}

/-- A verb as it is compared: its text in small letters. -/
def Value.verb (v : Value κ) : String := Text.lower v.text

/-- Whether a value is the word that opens a route. -/
def Value.isPublicWord : Value κ → Bool
  | .str s => s == "public"
  | _ => false

namespace Visibility

/-- The open verbs of a mapping, all of whose values must be the word that opens. -/
def readVerbs : List (Value κ × Value κ) → Except (SpecError κ) (List String)
  | [] => .ok []
  | (verb, value) :: rest =>
    if value.isPublicWord then (readVerbs rest).map (verb.verb :: ·)
    else .error (.badVerbAccess verb value)

/-- The rule that a declaration gives. -/
def read : Value κ → Except (SpecError κ) Visibility
  | .none => .ok .identified
  | .dict entries => (readVerbs entries).map fun verbs => .everyoneFor verbs.eraseDups
  | v => if v.isPublicWord then .ok .everyone else .error (.badAccess v)

end Visibility

namespace RoleRule

/-- A collection of roles without repetitions, in the order given. -/
def readRoles : Value κ → Except (SpecError κ) (List String)
  | .str s => .error (.badRoles (.str s))
  | .unpaired points => .error (.badRoles (.unpaired points))
  | .dict entries => .error (.badRoles (.dict entries))
  | .profile p => .error (.badRoles (.profile p))
  | .health h => .error (.badRoles (.health h))
  | v =>
    match v.items? with
    | some items => .ok (items.map Value.text).eraseDups
    | none => .error (.badRoles v)

/-- Lists of roles under verbs. -/
def readPerVerb : List (Value κ × Value κ) → Except (SpecError κ) (List (String × List String))
  | [] => .ok []
  | (verb, value) :: rest => do
    let roles ← readRoles value
    let rules ← readPerVerb rest
    pure ((verb.verb, roles) :: rules)

/-- The rule that a declaration gives. -/
def read : Value κ → Except (SpecError κ) RoleRule
  | .none => .ok .anyone
  | .dict entries => (readPerVerb entries).map fun rules => .perVerb (Assoc.ofList rules)
  | v => (readRoles v).map .oneOf

end RoleRule

end Gatehouse
