import Gatehouse.Access.RoleRule
import Gatehouse.Access.Visibility

/-!
# The tree of routes

An application declares its interface as a tree. A node has handlers for some
verbs, rules of its own and children under keys; a root also says where it is
mounted. The order of the children is the order in which requests are matched.
-/

namespace Gatehouse

/-- A node of the route tree; `κ` is the type of handlers. -/
structure RouteTree (κ : Type) where
  url : Option String
  version : Option String
  /-- Handlers under verbs in small letters. -/
  methods : List (String × κ)
  visibility : Visibility
  roles : RoleRule
  children : List (String × RouteTree κ)
deriving Inhabited

namespace RouteTree

/-- What a node contributes. -/
inductive Shape where
  | leaf
  | branch
  | hybrid
  | empty
deriving DecidableEq, Repr

def Shape.name : Shape → String
  | .leaf => "leaf"
  | .branch => "branch"
  | .hybrid => "hybrid"
  | .empty => "empty"

variable {κ : Type}

def shape (t : RouteTree κ) : Shape :=
  match t.methods.isEmpty, t.children.isEmpty with
  | false, false => .hybrid
  | false, true => .leaf
  | true, false => .branch
  | true, true => .empty

end RouteTree

end Gatehouse
