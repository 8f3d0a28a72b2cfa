import Gatehouse.Access.RoleRule
import Gatehouse.Access.Visibility

/-!
# The policy of one route

The rules of a node are settled once for each of its verbs. What is left is all
that the gate looks at: open to everyone, or the roles that may pass.
-/

namespace Gatehouse

structure Policy where
  isPublic : Bool
  /-- The roles that may pass; `none` lets every identity pass. -/
  roles : Option (List String)
deriving DecidableEq, Repr, Inhabited

namespace Policy

/-- The policy that the rules of a node give for one verb. -/
def resolve (visibility : Visibility) (roles : RoleRule) (verb : String) : Policy :=
  let verb := Text.lower verb
  if visibility.isOpen verb then ⟨true, none⟩ else ⟨false, roles.accepted verb⟩

/-- The policy in a few words. -/
def describe (p : Policy) : String :=
  if p.isPublic then "public"
  else match p.roles with
    | none => "authenticated"
    | some roles => "roles:" ++ String.intercalate "," roles

end Policy

end Gatehouse
