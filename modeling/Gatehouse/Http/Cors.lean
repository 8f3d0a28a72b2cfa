import Gatehouse.Http.Response
import Gatehouse.Text.Blank

/-!
# Requests of other origins

A browser asks before it sends certain requests on behalf of another origin, and looks
at the headers of every response before it hands it on. The origins that may do so are
configured; an asterisk among them stands for all.

Because cookies may be sent along, a response names the very origin it is for, and so
it always depends on the origin. Questions are answered here and go no further.
-/

namespace Gatehouse.Http.Cors

/-- Methods that another origin may use. -/
def allowedMethods : List String := ["GET", "POST", "PUT", "PATCH", "DELETE"]

/-- Headers that another origin may send. -/
def allowedHeaders : List String :=
  ["Accept", "Accept-Language", "Authorization", "Content-Language", "Content-Type"]

/-- Seconds for which an answer may be kept. -/
def maxAge : Nat := 3600

/-- Whether every origin is allowed. -/
def allowsAll (origins : List String) : Bool := origins.contains "*"

def allows (origins : List String) (origin : String) : Bool :=
  allowsAll origins || origins.contains origin

def origin? (r : Request) : Option String := r.headers.first? "origin"

/-- The origin and the method that a browser asks about. -/
def question? (r : Request) : Option (String × String) :=
  if r.method = "OPTIONS" then do
    let origin ← origin? r
    let method ← r.headers.first? "access-control-request-method"
    pure (origin, method)
  else none

/-- The names in a list of headers, in small letters and without blanks around them. -/
def headerNames (s : String) : List String :=
  (Text.pieces ',' s.toList).map fun name =>
    String.ofList (Text.trimBlanks (Text.lower (String.ofList name)).toList)

/-- Whether all headers of a list may be sent. -/
def allowsHeaders (s : String) : Bool :=
  (headerNames s).all (allowedHeaders.map Text.lower).contains

/-- What is not allowed of that which a browser asks about. -/
def objections (origins : List String) (r : Request) (origin method : String) : List String :=
  let whenever (b : Bool) (word : String) : List String := if b then [word] else []
  whenever (!allows origins origin) "origin" ++
    whenever (!allowedMethods.contains method) "method" ++
    whenever (!((r.headers.first? "access-control-request-headers").all allowsHeaders)) "headers" ++
    whenever (r.headers.first? "access-control-request-private-network").isSome "private-network"

/-- The headers of every answer to a question. -/
def answerHeaders : Headers :=
  [("vary", "Origin, Access-Control-Request-Method, Access-Control-Request-Headers, " ++
      "Access-Control-Request-Private-Network"),
    ("access-control-allow-methods", String.intercalate ", " allowedMethods),
    ("access-control-max-age", toString maxAge),
    ("access-control-allow-headers", String.intercalate ", " allowedHeaders),
    ("access-control-allow-credentials", "true")]

/-- The answer to a question. -/
def answer (origins : List String) (r : Request) (origin method : String) : Response :=
  let headers := answerHeaders ++
    (if allows origins origin then [("access-control-allow-origin", origin)] else [])
  match objections origins r origin method with
  | [] => .plain 200 headers "OK"
  | words => .plain 400 headers ("Disallowed CORS " ++ String.intercalate ", " words)

/-- Names the origin that a response is for. -/
def nameOrigin (origin : String) (hs : Headers) : Headers :=
  (hs.set "access-control-allow-origin" origin).addVary "Origin"

/-- A response with what a browser needs to know about it. -/
def decorate (origins : List String) (r : Request) (response : Response) : Response :=
  let headers :=
    match origin? r with
    | none => response.headers.addVary "Origin"
    | some origin =>
      let hs := response.headers.set "access-control-allow-credentials" "true"
      if allows origins origin then nameOrigin origin hs else hs.addVary "Origin"
  { response with headers }

end Gatehouse.Http.Cors
