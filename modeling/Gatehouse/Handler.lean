import Gatehouse.Encoding.Query
import Gatehouse.Failure.Basic
import Gatehouse.Http.Request
import Gatehouse.Http.Response
import Gatehouse.Report
import Gatehouse.Session
import Gatehouse.Storage.Basic

/-!
# Handlers

A handler does one act after the other and gives back what the last one came to, unless
an act fails before. Acts look at the request and at who it comes from, and they may
read and change the session; between two acts other requests may be served. The acts of
the service's own handlers have names, and `work` stands for any other.
-/

namespace Gatehouse

/-- What a handler gives back. -/
inductive Reply where
  | value (v : Datum)
  | error (e : ApiError)
  | response (r : Http.Response)

/-- What a handler is given: the request with the parameters of its path, and the
identity that the gate let pass. -/
structure Visit where
  request : Http.Request
  params : List (String × Datum)
  identity : Option Identity

/-- What surrounds an act: the identity noted with the request, the service's name and
database, and how an attempt to reach it goes. -/
structure Surroundings where
  noted : Option Identity
  serviceName : String
  storage : Storage
  attempt : Storage.Attempt

/-- One thing that a handler does. -/
inductive Act where
  | give (v : Datum)
  | giveError (e : ApiError)
  | fail (f : Failure)
  | respond (status : Int) (mediaType : Option String) (headers : List (String × String))
      (text : String)
  | giveIdentity
  /-- Tells what the handler sees of the request. -/
  | echo (withBody : Bool)
  | setInSession (key value : Datum)
  | showSession
  | popFromSession (key : Datum)
  | clearSession
  /-- Lets other requests go on. -/
  | pause
  /-- Tells how the service is. -/
  | reportHealth
  /-- Tells who the request comes from. -/
  | reportProfile
  /-- Whatever else is done at one go: what it comes to, and what becomes of the session,
  may depend on all that the handler can see and on what the act before came to. -/
  | work (f : Visit → Surroundings → Reply → Session → Except Failure Reply × Session)

structure Handler where
  name : String
  acts : List Act

/-- The version of the service. -/
def serviceVersion : String := "0.1.0"

/-- What an act came to, the session after it, and what was said. -/
structure ActOutcome where
  reply : Except Failure Reply
  session : Session
  logs : List LogEntry

namespace Act

def object (members : List (String × Datum)) : Datum :=
  .dict (members.map fun (k, v) => (.str k, v))

def optionalIdentity : Option Identity → Datum
  | some i => .ofIdentity i
  | none => .none

/-- What a handler sees of a request. -/
def seen (withBody : Bool) (visit : Visit) (noted : Option Identity) : Datum :=
  let r := visit.request
  object
    [("method", .str r.method), ("path", .str r.shownPath), ("params", object visit.params),
      ("query", .list ((Query.pairs r.query).map fun (k, v) => .list [.str k, .str v])),
      ("body", if withBody then .str r.body else .none),
      ("authenticated", .bool visit.identity.isSome),
      ("identity", optionalIdentity visit.identity), ("state_identity", optionalIdentity noted)]

/-- A failure because a text does not fit into a header. -/
def unfitHeader : Failure := .fault ⟨.valueError, []⟩

/-- An identity that was asked for and is not there. -/
def noIdentity : Failure :=
  .fault ⟨.attributeError, [.str "'NoneType' object has no attribute 'subject'"]⟩

/-- A profile cannot be made of anything but texts. -/
def badProfile : Failure := .fault ⟨.validationError, []⟩

/-- How the service is, and what is said about it. -/
def health (s : Surroundings) : Datum × List LogEntry :=
  let (up, logs) := s.storage.ping s.attempt
  (.health ⟨if up then "ok" else "degraded", s.serviceName, serviceVersion⟩, logs)

/-- The response that an act asks for, if its headers can be sent. -/
def response (status : Int) (mediaType : Option String) (headers : List (String × String))
    (text : String) : Except Failure Reply :=
  if Http.Response.fitHeaders headers && mediaType.all Http.Response.fitsHeader then
    .ok (.response (.make status mediaType headers text))
  else .error unfitHeader

/-- One act on a session; `last` is what the act before came to. -/
def run (visit : Visit) (around : Surroundings) (last : Reply) (session : Session) :
    Act → ActOutcome
  | .give v => ⟨.ok (.value v), session, []⟩
  | .giveError e => ⟨.ok (.error e), session, []⟩
  | .fail f => ⟨.error f, session, []⟩
  | .respond status mediaType headers text =>
    ⟨response status mediaType headers text, session, []⟩
  | .giveIdentity => ⟨.ok (.value (optionalIdentity visit.identity)), session, []⟩
  | .echo withBody => ⟨.ok (.value (seen withBody visit around.noted)), session, []⟩
  | .setInSession key value =>
    match key.unhashable? with
    | none => ⟨.ok (.value (object [("set", key)])), session.set key value, []⟩
    | some typeName => ⟨.error (.fault (.unhashable typeName)), session.change, []⟩
  | .showSession =>
    ⟨.ok (.value (object [("session", .dict session.entries)])), session.touch, []⟩
  | .popFromSession key =>
    match key.unhashable? with
    | none =>
      ⟨.ok (.value (object [("popped", (session.get? key).getD .none)])), session.pop key, []⟩
    | some typeName => ⟨.error (.fault (.unhashable typeName)), session.touch, []⟩
  | .clearSession => ⟨.ok (.value (object [("cleared", .bool true)])), session.clear, []⟩
  | .pause => ⟨.ok (.value .none), session, []⟩
  | .reportHealth =>
    let (v, logs) := health around
    ⟨.ok (.value v), session, logs⟩
  | .reportProfile =>
    match visit.identity with
    | some i =>
      match Profile.ofIdentity i with
      | .ok p => ⟨.ok (.value (.profile p)), session, []⟩
      | .error _ => ⟨.error badProfile, session, []⟩
    | none => ⟨.error noIdentity, session, []⟩
  | .work f => ⟨(f visit around last session).1, (f visit around last session).2, []⟩

end Act

namespace Handler

/-- The handler that names itself. -/
def naming (name : String) : Handler :=
  ⟨name, [.give (Act.object [("handler", .str name)])]⟩

end Handler

end Gatehouse
