import Gatehouse.Failure.Kind
import Gatehouse.Text.Quoted

/-!
# Errors that a client is told about

An error is of a kind and may carry a detail. The detail is for the operator's
log; what goes to the client depends on the kind alone.
-/

namespace Gatehouse

structure ApiError where
  kind : ErrorKind := .invalidRequest
  detail : String := ""
deriving DecidableEq, Repr, Inhabited

namespace ApiError

def status (e : ApiError) : Nat := e.kind.status

def message (e : ApiError) : String := e.kind.message

/-- The error as text: the detail, or the kind's message where there is none. -/
def text (e : ApiError) : String := if e.detail.isEmpty then e.kind.message else e.detail

/-- The error as a literal. -/
def literal (e : ApiError) : String :=
  "ApiError(" ++ e.kind.name ++ ", detail=" ++ Text.Quoted.text e.detail ++ ")"

end ApiError

end Gatehouse
