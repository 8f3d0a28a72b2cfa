import Gatehouse.Access.Reader

/-!
# Reading the tree of routes

A node is declared by a mapping with six known keys. An unknown key is refused, so
that a misspelt one does not drop a part of the tree without a word. A node that has
been read before stands for itself. Within a node the keys are checked first, then
url, version, methods and children, and the access rules last.
-/

namespace Gatehouse.RouteTree

variable {κ : Type}

/-- The keys of a node. -/
def knownKeys : List String := ["url", "version", "methods", "access", "roles", "children"]

def isKnown : Value κ → Bool
  | .str s => knownKeys.contains s
  | _ => false

/-- The value under a known key; nothing if it is not there. -/
def field (name : String) (entries : List (Value κ × Value κ)) : Value κ :=
  (Value.entry? (.str name) entries).getD .none

/-- Refuses unknown keys and names them in order. -/
def checkKeys (entries : List (Value κ × Value κ)) : Except (SpecError κ) Unit :=
  match (entries.map (·.1)).filter fun k => !isKnown k with
  | [] => .ok ()
  | unknown =>
    match Value.sort unknown with
    | .ok sorted => .error (.unknownKeys sorted)
    | .error (v, w) => .error (.unordered v.typeName w.typeName)

/-- A text or nothing. -/
def readText (wrong : Value κ → SpecError κ) : Value κ → Except (SpecError κ) (Option String)
  | .none => .ok none
  | .str s => .ok (some s)
  | .unpaired points => .ok (some (Json.textOfPoints points))
  | v => .error (wrong v)

/-- Handlers under verbs. -/
def readHandlers : List (Value κ × Value κ) → Except (SpecError κ) (List (String × κ))
  | [] => .ok []
  | (verb, .callable f) :: rest => (readHandlers rest).map ((verb.verb, f) :: ·)
  | (verb, _) :: _ => .error (.notCallable verb)

/-- The handlers of a node: a mapping, or a value that counts as not given. -/
def readMethods : Value κ → Except (SpecError κ) (List (String × κ))
  | .dict entries => (readHandlers entries).map Assoc.ofList
  | v => if v.isTruthy then .error (.noPairs v.typeName) else .ok []

/-- The node that the fields other than the children make with the children given. -/
def assemble (url version : Option String) (methods : List (String × κ))
    (entries : List (Value κ × Value κ)) (children : List (String × RouteTree κ)) :
    Except (SpecError κ) (RouteTree κ) := do
  let visibility ← Visibility.read (field "access" entries)
  let roles ← RoleRule.read (field "roles" entries)
  pure ⟨url, version, methods, visibility, roles, children⟩

mutual

/-- The node that a value declares. -/
def read : Value κ → Except (SpecError κ) (RouteTree κ)
  | .tree t => .ok t
  | .dict entries => do
    checkKeys entries
    let url ← readText .badUrl (field "url" entries)
    let version ← readText .badVersion (field "version" entries)
    let methods ← readMethods (field "methods" entries)
    let children ← readChildrenField entries
    assemble url version methods entries (Assoc.ofList children)
  | v => .error (.notMapping v.typeName)

/-- The children under the key for them, if it is among the entries. -/
def readChildrenField :
    List (Value κ × Value κ) → Except (SpecError κ) (List (String × RouteTree κ))
  | [] => .ok []
  | (.str "children", .dict children) :: _ => readChildren children
  | (.str "children", v) :: _ => if v.isTruthy then .error (.noPairs v.typeName) else .ok []
  | _ :: rest => readChildrenField rest

/-- The nodes under each key, in order. -/
def readChildren :
    List (Value κ × Value κ) → Except (SpecError κ) (List (String × RouteTree κ))
  | [] => .ok []
  | (key, v) :: rest => do
    let child ← read v
    let children ← readChildren rest
    pure ((key.text, child) :: children)

end

end Gatehouse.RouteTree
