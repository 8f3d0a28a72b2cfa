import Gatehouse.Assoc

/-!
# Which roles may use a route

A rule lists roles for all verbs or for single ones; a verb without a list takes
any identity. Verbs are kept in small letters, roles as they are spelled.
-/

namespace Gatehouse

inductive RoleRule where
  | anyone
  | oneOf (roles : List String)
  | perVerb (rules : List (String × List String))
deriving DecidableEq, Repr, Inhabited

namespace RoleRule

/-- The roles accepted for `verb`; `none` when every identity is. -/
def accepted (r : RoleRule) (verb : String) : Option (List String) :=
  match r with
  | .anyone => none
  | .oneOf roles => some roles
  | .perVerb rules => Assoc.get? verb rules

end RoleRule

end Gatehouse
