import Gatehouse.Access.Policy
import Gatehouse.Failure.Basic
import Gatehouse.Http.Request
import Gatehouse.Log
import Gatehouse.Session
import Gatehouse.Token.Basic

/-!
# The gate

In front of every handler the gate settles whether a request may pass. A public
route lets everyone pass, and no token is looked at. Otherwise the token of the
session counts, or else the one in the header, and the verifier says what it is
worth. A token that has expired is taken out of the session, so that the client does
not come back with it.
-/

namespace Gatehouse.Gate

/-- What the gate decides: pass, with the identity of a protected route, or not. -/
inductive Outcome where
  | proceed (i : Option Identity)
  | reject (e : ApiError)

/-- What judges the text that is shown as a token; it may itself fail. -/
abbrev Verifier := Datum → Except Failure Verdict

/-- The characters in front of a token in a header. -/
def bearerMark : List Char := "Bearer ".toList

/-- The token in the header: the text behind the mark, if it is not empty. -/
def headerToken? (headers : Http.Headers) : Option String :=
  let value := ((headers.first? "authorization").getD "").toList
  if bearerMark.isPrefixOf value then
    let token := value.drop bearerMark.length
    if token.isEmpty then none else some (String.ofList token)
  else none

/-- The token of a request: that of the session goes before that of the header. -/
def token? (session : Option Session) (headers : Http.Headers) : Option Datum :=
  (session.bind Session.token?).or ((headerToken? headers).map .str)

/-- The decision on one request and what comes with it. -/
structure Decision where
  outcome : Except Failure Outcome
  session : Option Session
  /-- The tokens that were shown to the verifier. -/
  verified : List Datum
  logs : List LogEntry

def log (level : LogLevel) (message : String) : LogEntry :=
  ⟨"routeforge.auth.gate", level, message⟩

/-- Where a request goes, for the log. -/
def place (r : Http.Request) : String := r.method ++ " " ++ r.shownPath

def rolesText (roles : List String) : String :=
  Value.literal (κ := Empty)
    (.list ((roles.eraseDups.mergeSort fun a b => decide (a ≤ b)).map .str))

/-- Whether a role is one of those accepted. -/
def accepts (roles : List String) : Json → Bool
  | .str role => roles.contains role
  | _ => false

/-- What an identity consists of, as a value. -/
def shown (part : Json) : Value Empty := .ofJson part

/-- The type of a role that cannot be looked up among those accepted: one that may
change has no place in a collection. -/
def unfitRole? (roles : Option (List String)) (role : Json) : Option String :=
  match roles with
  | none => none
  | some _ => (shown role).unhashable?

/-- The decision for an identity whose role is checked against those accepted. -/
def grant (r : Http.Request) (roles : Option (List String)) (i : Identity) :
    Outcome × List LogEntry :=
  match roles with
  | none => (.proceed (some i), [])
  | some roles =>
    if accepts roles i.role then (.proceed (some i), [])
    else
      (.reject ⟨.forbidden,
          "role " ++ (shown i.role).literal ++ " not in " ++ rolesText roles⟩,
        [log .warning ("Forbidden: subject=" ++ (shown i.subject).text ++ " role=" ++
          (shown i.role).text ++ " on " ++ place r)])

/-- The decision on a request that shows `token`, once the verifier has answered. -/
def settle (r : Http.Request) (roles : Option (List String)) (session : Option Session)
    (token : Datum) (verdict : Except Failure Verdict) : Decision :=
  match verdict with
  | .error f => ⟨.error f, session, [token], []⟩
  | .ok .expired =>
    ⟨.ok (.reject ⟨.expiredToken, ""⟩), session.map (·.pop Session.tokenKey), [token],
      [log .info ("Expired token on " ++ place r)]⟩
  | .ok .invalid =>
    ⟨.ok (.reject ⟨.invalidToken, ""⟩), session, [token],
      [log .info ("Invalid token on " ++ place r)]⟩
  | .ok (.accepted i) =>
    match unfitRole? roles i.role with
    | some typeName => ⟨.error (.fault (.unhashable typeName)), session, [token], []⟩
    | none =>
      let (outcome, logs) := grant r roles i
      ⟨.ok outcome, session, [token], logs⟩

/-- How far the gate gets before the verifier is asked. -/
inductive Approach where
  | decided (d : Decision)
  /-- This token has to be judged; the session was looked at for it. -/
  | showing (token : Datum) (session : Option Session)

/-- Looks at the policy and for a token. -/
def approach (policy : Policy) (r : Http.Request) (session : Option Session) : Approach :=
  if policy.isPublic then .decided ⟨.ok (.proceed none), session, [], []⟩
  else
    let looked := session.map Session.touch
    match token? session r.headers with
    | none =>
      .decided ⟨.ok (.reject ⟨.invalidToken, "missing token"⟩), looked, [],
        [log .info ("No token on " ++ place r)]⟩
    | some token => .showing token looked

/-- The decision on a request. -/
def check (policy : Policy) (verify : Verifier) (r : Http.Request) (session : Option Session) :
    Decision :=
  match approach policy r session with
  | .decided d => d
  | .showing token session => settle r policy.roles session token (verify token)

end Gatehouse.Gate
