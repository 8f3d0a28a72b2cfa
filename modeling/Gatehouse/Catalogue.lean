import Gatehouse.OwnModules
import Gatehouse.Text.Quoted

/-!
# Where declared routes are found

Routes are declared in modules, under names. A target is the name of a module and,
behind a colon, the name of what is wanted from it; without one, it is the usual name.
A module's name may have parts between dots: what stands before the last dot is the
module that holds it, and only packages hold others.
-/

namespace Gatehouse

/-- Modules by name. -/
abbrev Catalogue := List (String × Declarations)

/-- Why a target leads nowhere. -/
inductive TargetError where
  /-- There is no target at all. -/
  | noTarget
  | noName
  /-- A name that starts with a dot counts from another one, and there is none. -/
  | relativeName (name : String)
  | unknown (name : String)
  /-- A module is asked for inside another one, which holds none. -/
  | notInside (name parent : String)
  /-- A module does not declare a name; it may not even have a name of its own. -/
  | notDeclared (module : Option String) (name : String)
  | notIterable (typeName : String)
deriving DecidableEq, Repr

def TargetError.message : TargetError → String
  | .noTarget => "'list' object has no attribute 'partition'"
  | .noName => "Empty module name"
  | .relativeName name =>
    "the 'package' argument is required to perform a relative import for " ++
      Text.Quoted.text name
  | .unknown name => "No module named " ++ Text.Quoted.text name
  | .notInside name parent =>
    "No module named " ++ Text.Quoted.text name ++ "; " ++ Text.Quoted.text parent ++
      " is not a package"
  | .notDeclared (some module) name =>
    "module '" ++ module ++ "' has no attribute '" ++ name ++ "'"
  | .notDeclared none name => "module has no attribute '" ++ name ++ "'"
  | .notIterable typeName => "'" ++ typeName ++ "' object is not iterable"

namespace Catalogue

/-- What the service declares itself, and what it is built with. -/
def own : Catalogue := OwnModules.all ++ OwnModules.surroundings

/-- The name under which routes are declared unless another one is given. -/
def usualName : String := "ROUTES"

/-- The name of a module and that of what is wanted from it. -/
def splitTarget (target : String) : String × String :=
  let cs := target.toList
  let module := cs.takeWhile (· != ':')
  let wanted := (cs.dropWhile (· != ':')).drop 1
  (String.ofList module, if wanted.isEmpty then usualName else String.ofList wanted)

/-- The names of a module and of those that it is in, longest first. -/
def nested (name : String) : List String :=
  ((Query.split '.' name.toList).map String.ofList).foldl
    (fun names piece =>
      match names with
      | [] => [piece]
      | parent :: _ => (parent ++ "." ++ piece) :: names) []

/-- What the first of some modules declares, where each is in the next one. A module that
is there is taken as it is; for one that is not, the next one is asked. -/
def seek (c : Catalogue) : List String → Except TargetError Declarations
  | [] => .error .noName
  | [name] =>
    match c.lookup name with
    | some declarations => .ok declarations
    | none => .error (.unknown name)
  | name :: parent :: rest =>
    match c.lookup name with
    | some declarations => .ok declarations
    | none =>
      match seek c (parent :: rest) with
      | .error e => .error e
      | .ok declarations =>
        if (declarations.lookup "__path__").isSome then .error (.unknown name)
        else .error (.notInside name parent)

/-- What a module declares. -/
def module (c : Catalogue) (name : String) : Except TargetError Declarations :=
  if name.isEmpty then .error .noName
  else if name.toList.head? = some '.' then .error (.relativeName name)
  else c.seek (nested name)

/-- The name by which a module calls itself. -/
def ownName? (declarations : Declarations) : Option String :=
  match declarations.lookup "__name__" with
  | some (.str name) => some name
  | _ => none

/-- The value that a target leads to. -/
def find (c : Catalogue) (target : String) : Except TargetError (Value Handler) := do
  let (name, wanted) := splitTarget target
  let declarations ← c.module name
  match declarations.lookup wanted with
  | some v => pure v
  | none => throw (.notDeclared (ownName? declarations) wanted)

/-- The routes that a target leads to. -/
def views (c : Catalogue) (target : String) : Except TargetError (List (Value Handler)) := do
  let v ← c.find target
  match v.items? with
  | some items => pure items
  | none => throw (.notIterable v.typeName)

/-- The routes that a target leads to, if there is one. -/
def viewsOf (c : Catalogue) : Option String → Except TargetError (List (Value Handler))
  | some target => c.views target
  | none => .error .noTarget

end Catalogue

end Gatehouse
