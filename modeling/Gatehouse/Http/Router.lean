import Gatehouse.Encoding.Percent
import Gatehouse.Http.Pages
import Gatehouse.Http.PathPattern
import Gatehouse.Log
import Gatehouse.Route.Table
import Gatehouse.Text.Search

/-!
# From requests to entries

Every entry of the route table is mounted at its path and, unless that ends in a
slash, at the path with a slash behind it, all of them behind the pages about the service.
The first mounted route that answers both the path and the method of a request gets it. If
none does, and none has the path either, a path that would be known with or without its
last slash is pointed out; everything else leads nowhere.

A place reads the numbers in a path as soon as it has the path, and before the method is
asked about. So a number that cannot be read stops the search wherever it comes to such a
place, whether or not the place would have answered.
-/

namespace Gatehouse.Http

/-- One place at which an entry answers. -/
structure Mounted (κ : Type) where
  path : String
  pattern : PathPattern
  methods : List String
  name : String
  /-- Whether the place is one to be shown to others. -/
  listed : Bool
  entry : RouteEntry κ

namespace Mounted

variable {κ : Type}

/-- An entry mounted at one path. -/
def ofEntry (e : RouteEntry κ) (path name : String) (listed : Bool) :
    Except PatternError (Mounted κ) :=
  (PathPattern.ofPath path).map fun pattern => ⟨path, pattern, e.methods, name, listed, e⟩

/-- The places at which an entry answers. -/
def places (e : RouteEntry κ) : Except PatternError (List (Mounted κ)) := do
  let own ← ofEntry e e.path e.operationId true
  if Text.endsWith "/" e.path then pure [own]
  else
    let twin ← ofEntry e (e.path ++ "/") (e.operationId ++ "_slash") false
    pure [own, twin]

/-- Whether a path is one of the place's, whatever the method. -/
def hasPath (m : Mounted κ) (path : String) : Bool := m.pattern.covers path

/-- Whether the place answers a method and a path. -/
def answers (m : Mounted κ) (method path : String) : Bool :=
  m.methods.contains method && m.hasPath path

/-- Whether a path is one of the place's, but with a number that cannot be read. -/
def balksAt (m : Mounted κ) (path : String) : Bool := m.pattern.balksAt path

end Mounted

namespace Router

variable {κ : Type}

def mountedLog (e : RouteEntry κ) : LogEntry :=
  ⟨"routeforge.api.dispatch", .info,
    "Mounted " ++ Text.upper e.verb ++ " " ++ e.path ++ " (" ++ e.policy.describe ++ ")"⟩

/-- The outcome of mounting a table, and what was said until then. -/
structure Mounting (κ : Type) where
  result : Except PatternError (List (Mounted κ))
  logs : List LogEntry

/-- Mounts the entries one after the other behind those that are mounted. -/
def mountFrom (before : List (Mounted κ)) (logs : List LogEntry) : RouteTable κ → Mounting κ
  | [] => ⟨.ok before, logs⟩
  | e :: rest =>
    match Mounted.places e with
    | .error why => ⟨.error why, logs⟩
    | .ok places => mountFrom (before ++ places) (logs ++ [mountedLog e]) rest

/-- Mounts a table. -/
def mount (table : RouteTable κ) : Mounting κ := mountFrom [] [] table

/-- The first place that answers a method and a path. -/
def find? (places : List (Mounted κ)) (method path : String) : Option (Mounted κ) :=
  places.find? (·.answers method path)

/-- Whether a page or some place answers a method and a path. -/
def answers (places : List (Mounted κ)) (method path : String) : Bool :=
  Pages.answers method path || (find? places method path).isSome

/-- Whether some page or place has a path. -/
def knows (places : List (Mounted κ)) (path : String) : Bool :=
  Pages.knows path || places.any (·.hasPath path)

/-- Whether some place has a path, but with a number that cannot be read. -/
def balksAt (places : List (Mounted κ)) (path : String) : Bool := places.any (·.balksAt path)

/-- Whether the search for the first place that answers is stopped by a number that cannot
be read. -/
def stumbles (method path : String) : List (Mounted κ) → Bool
  | [] => false
  | m :: rest => m.balksAt path || (!m.answers method path && stumbles method path rest)

/-- The same path with or without slashes at its end. -/
def toggled (path : String) : String :=
  if Text.endsWith "/" path then
    String.ofList (path.toList.reverse.dropWhile (· == '/')).reverse
  else path ++ "/"

/-- Where a request goes. -/
inductive Destination (κ : Type) where
  /-- A page about the service. -/
  | page
  | place (m : Mounted κ) (params : List (String × Datum))
  /-- A known path beside the one that was asked for. -/
  | elsewhere (path : String)
  /-- A place with a number in the path that cannot be read. -/
  | unreadable
  | nowhere

/-- Where a request goes whose path nothing has, if this is the path beside it. -/
def aside (places : List (Mounted κ)) (path : String) : Destination κ :=
  if Pages.knows path then .elsewhere path
  else
    match places.find? (·.hasPath path) with
    | some m => if m.balksAt path then .unreadable else .elsewhere path
    | none => .nowhere

def destination (places : List (Mounted κ)) (r : Request) : Destination κ :=
  if Pages.answers r.method r.path then .page
  else if stumbles r.method r.path places then .unreadable
  else
    match find? places r.method r.path with
    | some m =>
      match m.pattern.values? r.path with
      | some params => .place m params
      | none => .unreadable
    | none =>
      if knows places r.path || r.path = "/" then .nowhere else aside places (toggled r.path)

/-- Characters of an address that stand as they are. -/
def addressMarks : List Char := ":/%#?=@[]!$&'()*+,;".toList

/-- The address of another path of the same host, with the query of the request. -/
def address (r : Request) (path : String) : String :=
  let start :=
    match r.host? with
    | some host => "http://" ++ host ++ String.ofList (Request.pathBehindHost path.toList)
    | none => String.ofList (Request.barePath path.toList)
  let query := if r.query.isEmpty then "" else "?" ++ r.queryText?.getD ""
  Percent.encode addressMarks (start ++ query)

/-- The response that points to another path. -/
def pointing (r : Request) (path : String) : Response :=
  .make 307 none [("location", address r path)] ""

end Router

end Gatehouse.Http
