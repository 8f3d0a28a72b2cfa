import Gatehouse.Failure.Basic
import Gatehouse.Http.Payload
import Gatehouse.Http.Response
import Gatehouse.Log

/-!
# Responses that say what went wrong

Every error is told to a client in one form: an object with a message and the status
once more as a code. What lies behind it goes to the log only. Where there is no route
for a path and a method, a plain text says so, whether or not the path is known. The
framework has a form of its own for one class of errors, those of a request that does not
validate, and shows what they hold.
-/

namespace Gatehouse.Http.ErrorBody

/-- A message with its code. -/
def json (message : String) (code : Int) : Json :=
  .obj [("message", .str message), ("code", .int code)]

def response (status : Int) (headers : List (String × String)) (message : String) : Response :=
  .json status headers (json message status)

/-- The response to an error that a client is told about. -/
def ofApiError (e : ApiError) : Response := response e.status [] e.message

def log (level : LogLevel) (message : String) : LogEntry :=
  ⟨"routeforge.api.errors", level, message⟩

/-- Where a request goes, for the log. -/
def place (r : Request) : String := r.method ++ " " ++ r.shownPath

/-- What the log says about an error: its detail, if it has one and was classified. -/
def apiErrorLogs (r : Request) (e : ApiError) : List LogEntry :=
  if e.detail.isEmpty || e.kind = .unclassified then []
  else [log .info (e.kind.name ++ " on " ++ place r ++ ": " ++ e.detail)]

/-- The response where there is no route. -/
def notFound : Response := .plain 404 [] "Not Found"

/-- What stands in for a detail that is no text. -/
def withoutDetail : String := "Request failed."

/-- What a client is told of a detail: a text as it is, and nothing of anything else. Half
of a surrogate pair cannot be sent. -/
def message? : Datum → Option String
  | .str s => some s
  | .unpaired _ => none
  | _ => some withoutDetail

/-- The response to a failure with a status of its own. A detail or headers that cannot be
sent make another failure. -/
def ofStatus? (code : Int) (detail : Datum) (headers : List (String × String)) :
    Option Response :=
  if code = 404 ∨ code = 405 then some notFound
  else if Response.fitHeaders headers then (message? detail).map (response code headers)
  else none

/-- The response of the framework to an error of its own. What the error holds may not be
possible to write down. -/
def ofFault? (f : Fault) : Option Response :=
  f.invalid?.bind fun errors =>
    match Payload.json (.dict [(.str "detail", errors)]) with
    | .ok j => some (.json 422 [] j)
    | .error _ => none

/-- The error that a client is told about when something broke. -/
def broken (f : Failure) : Response := ofApiError f.classify

/-- What the log says when something broke outside a handler. -/
def brokenLog (r : Request) : LogEntry := log .error ("Unhandled exception on " ++ place r)

end Gatehouse.Http.ErrorBody
