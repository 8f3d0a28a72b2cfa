import Gatehouse.Http.SessionCookie

/-!
# Clients that keep the session

A client keeps the last session cookie that it was sent, brings it along with every
request, and forgets it when it is taken back.
-/

namespace Gatehouse.Http

structure Jar where
  cookie : Option String
deriving DecidableEq, Repr, Inhabited

namespace Jar

def empty : Jar := ⟨none⟩

/-- A request that brings the cookie, unless it has cookies already. -/
def attach (j : Jar) (r : Request) : Request :=
  match j.cookie, r.headers.first? "cookie" with
  | some c, none => { r with headers := r.headers ++ [("cookie", SessionCookie.cookieName ++ "=" ++ c)] }
  | _, _ => r

/-- What a line that sets the session cookie sets it to, up to the first semicolon. -/
def sent? (line : String) : Option String :=
  let mark := (SessionCookie.cookieName ++ "=").toList
  let cs := line.toList
  if mark.isPrefixOf cs then
    some (String.ofList ((cs.drop mark.length).takeWhile (· != ';')))
  else none

/-- The value that a session cookie is taken back with. -/
def gone : String := "null"

/-- The jar after one line that sets a cookie. -/
def take (j : Jar) (line : String) : Jar :=
  match sent? line with
  | none => j
  | some value => if value = gone then empty else ⟨some value⟩

/-- The jar after a response. -/
def keep (j : Jar) (r : Response) : Jar := (r.headers.all "set-cookie").foldl take j

end Jar

end Gatehouse.Http
