import Gatehouse.Access.Policy

/-!
# The table of routes

A tree of routes is laid out as a flat list of entries, one for each verb of each
node. The order of the entries decides which one answers a request.
-/

namespace Gatehouse

/-- One way into the application. -/
structure RouteEntry (κ : Type) where
  path : String
  /-- The verb in small letters. -/
  verb : String
  policy : Policy
  handler : κ

namespace RouteEntry

variable {κ : Type}

def isWordChar (c : Char) : Bool :=
  ('0' ≤ c && c ≤ '9') || ('a' ≤ c && c ≤ 'z') || ('A' ≤ c && c ≤ 'Z')

/-- Every run of characters that are not letters or digits of ASCII becomes one
underscore; `inRun` tells whether the last character was in such a run. -/
def squeeze (inRun : Bool) : List Char → List Char
  | [] => []
  | c :: rest =>
    if isWordChar c then c :: squeeze false rest
    else if inRun then squeeze true rest
    else '_' :: squeeze true rest

/-- The characters without the underscores at both ends. -/
def stripUnderscores (cs : List Char) : List Char :=
  ((cs.dropWhile (· == '_')).reverse.dropWhile (· == '_')).reverse

/-- A path as a part of a name. -/
def slug (path : String) : String :=
  String.ofList (stripUnderscores (squeeze false path.toList))

/-- The name under which an entry is described. -/
def operationId (e : RouteEntry κ) : String := e.verb ++ "_" ++ slug e.path

/-- The methods that an entry answers: its verb, and with it HEAD if the verb is GET. -/
def methods (e : RouteEntry κ) : List String :=
  let verb := Text.upper e.verb
  if verb = "GET" then [verb, "HEAD"] else [verb]

end RouteEntry

abbrev RouteTable (κ : Type) := List (RouteEntry κ)

namespace RouteTable

variable {κ : Type}

/-- The paths in the order in which they first appear. -/
def paths (t : RouteTable κ) : List String := (t.map RouteEntry.path).eraseDups

/-- The first entry for a path and a verb of any spelling. -/
def lookup (t : RouteTable κ) (path verb : String) : Option (RouteEntry κ) :=
  t.find? fun e => e.path = path && e.verb = Text.lower verb

end RouteTable

end Gatehouse
