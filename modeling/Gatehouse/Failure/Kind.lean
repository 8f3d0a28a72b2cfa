/-!
# The kinds of errors a client can see

Each kind has one status and one message. Neither depends on what went wrong in
particular, so a response tells a client nothing else.
-/

namespace Gatehouse

inductive ErrorKind where
  | invalidRequest
  | invalidToken
  | expiredToken
  | forbidden
  | recordNotFound
  | unclassified
deriving DecidableEq, Repr, Inhabited

namespace ErrorKind

def all : List ErrorKind :=
  [.invalidRequest, .invalidToken, .expiredToken, .forbidden, .recordNotFound, .unclassified]

def name : ErrorKind → String
  | .invalidRequest => "INVALID_REQUEST"
  | .invalidToken => "INVALID_TOKEN"
  | .expiredToken => "EXPIRED_TOKEN"
  | .forbidden => "FORBIDDEN"
  | .recordNotFound => "RECORD_NOT_FOUND"
  | .unclassified => "UNCLASSIFIED"

def status : ErrorKind → Nat
  | .invalidRequest => 400
  | .invalidToken => 401
  | .expiredToken => 401
  | .forbidden => 403
  | .recordNotFound => 404
  | .unclassified => 500

def message : ErrorKind → String
  | .invalidRequest => "The request is invalid. Please check it and try again."
  | .invalidToken => "The provided token is not valid. Please check it."
  | .expiredToken => "The provided token has expired."
  | .forbidden => "You do not have permission to perform this action."
  | .recordNotFound => "The record was not found. Please check it."
  | .unclassified => "An unexpected error occurred."

/-- The kind of this name. -/
def ofName? (name : String) : Option ErrorKind := all.find? (·.name = name)

end ErrorKind

end Gatehouse
