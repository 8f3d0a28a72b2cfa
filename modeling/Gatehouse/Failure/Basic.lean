import Gatehouse.Failure.ApiError
import Gatehouse.Failure.Phrase
import Gatehouse.Value.Equality
import Gatehouse.Value.Literal

/-!
# What a computation may fail with

A handler or a verifier fails with an error meant for the client, with a status of
its own choice, because some limit of its own is exceeded, or with some other error. The
first is kept as it is; the last is unclassified, and its name and text become the detail.
-/

namespace Gatehouse

/-- The classes of errors that an application raises by name, those that come out of the
program's own parts, and any others. -/
inductive FaultClass where
  | runtimeError
  | valueError
  | keyError
  | typeError
  | zeroDivisionError
  | lookupError
  | exception
  | osError
  | attributeError
  | assertionError
  | notImplementedError
  | routeSpecError
  | validationError
  | overflowError
  | signingError
  | keyFormatError
  | encodingError
  | recursionError
  | unicodeEncodeError
  /-- What the framework raises for a request that does not validate. -/
  | requestValidationError
  /-- A class that an application has made itself. -/
  | own (name : String)
deriving DecidableEq, Repr

namespace FaultClass

def name : FaultClass → String
  | .runtimeError => "RuntimeError"
  | .valueError => "ValueError"
  | .keyError => "KeyError"
  | .typeError => "TypeError"
  | .zeroDivisionError => "ZeroDivisionError"
  | .lookupError => "LookupError"
  | .exception => "Exception"
  | .osError => "OSError"
  | .attributeError => "AttributeError"
  | .assertionError => "AssertionError"
  | .notImplementedError => "NotImplementedError"
  | .routeSpecError => "RouteSpecError"
  | .validationError => "ValidationError"
  | .overflowError => "OverflowError"
  | .signingError => "JWSError"
  | .keyFormatError => "JWKError"
  | .encodingError => "Error"
  | .recursionError => "RecursionError"
  | .unicodeEncodeError => "UnicodeEncodeError"
  | .requestValidationError => "RequestValidationError"
  | .own name => name

/-- The classes that an application may raise. -/
def raisable : List FaultClass :=
  [.runtimeError, .valueError, .keyError, .typeError, .zeroDivisionError, .lookupError,
    .exception, .osError, .attributeError, .assertionError, .notImplementedError,
    .routeSpecError]

def ofName? (name : String) : Option FaultClass := raisable.find? (·.name = name)

end FaultClass

/-- An error other than those meant for a client. -/
structure Fault where
  family : FaultClass
  args : List Datum

inductive Failure where
  | api (e : ApiError)
  /-- A status of its own, with what to say and headers to send along. -/
  | status (code : Int) (detail : Datum) (headers : List (String × String))
  /-- A limit is exceeded, and may be tried again after so many seconds. -/
  | limited (limit : String) (seconds : Int)
  | fault (f : Fault)

namespace Fault

/-- System errors with a name of their own, by number. -/
def systemNames : List (Int × String) :=
  [(1, "PermissionError"), (2, "FileNotFoundError"), (3, "ProcessLookupError"),
    (4, "InterruptedError"), (10, "ChildProcessError"), (11, "BlockingIOError"),
    (13, "PermissionError"), (17, "FileExistsError"), (20, "NotADirectoryError"),
    (21, "IsADirectoryError"), (32, "BrokenPipeError"), (103, "ConnectionAbortedError"),
    (104, "ConnectionResetError"), (108, "BrokenPipeError"), (110, "TimeoutError"),
    (111, "ConnectionRefusedError"), (114, "BlockingIOError"), (115, "BlockingIOError")]

/-- A system error has a number if it comes with two to five arguments. -/
def systemArgs? (f : Fault) : Option (Datum × Datum × List Datum) :=
  match f.family, f.args with
  | .osError, number :: reason :: more =>
    if more.length ≤ 3 then some (number, reason, more) else none
  | _, _ => none

/-- The name for a system error's number, which is an integer or a truth value. -/
def systemName? : Datum → Option String
  | .float _ => none
  | number => number.whole?.bind fun n => systemNames.lookup n

/-- The name of an error's class. -/
def className (f : Fault) : String :=
  match f.systemArgs? with
  | some (number, _, _) => (systemName? number).getD f.family.name
  | none => f.family.name

/-- Arguments as text: none at all, one as it is, several as a tuple. -/
def argsText : List Datum → String
  | [] => ""
  | [arg] => arg.text
  | args => Value.literal (.tuple args)

/-- What a system error is about beyond its reason. Where an operation would have had
to wait, a number tells how far it came and names no file. -/
def systemFiles (number : Datum) : List Datum → List Datum
  | file :: more =>
    if systemName? number = some "BlockingIOError" ∧ file.whole?.isSome then []
    else file :: more
  | [] => []

/-- What a system error says, with the files it is about. -/
def systemText (number reason : Datum) (more : List Datum) : String :=
  let head := "[Errno " ++ number.text ++ "] " ++ reason.text
  match systemFiles number more with
  | [] | .none :: _ => head
  | [file] | [file, _] => head ++ ": " ++ file.literal
  | file :: _ :: .none :: _ => head ++ ": " ++ file.literal
  | file :: _ :: other :: _ => head ++ ": " ++ file.literal ++ " -> " ++ other.literal

/-- The largest count of characters. -/
def maxCount : Int := 9223372036854775807

/-- Why a system error cannot be built: where an operation would have had to wait, a
number behind the reason is a count of characters. -/
def miscount? : List Datum → Option Fault
  | number :: _ :: count :: _ =>
    if systemName? number = some "BlockingIOError" then
      match count with
      | .float _ =>
        some ⟨.typeError, [.str "'float' object cannot be interpreted as an integer"]⟩
      | .int n =>
        if n < -maxCount - 1 ∨ maxCount < n then
          some ⟨.valueError, [.str "cannot fit 'int' into an index-sized integer"]⟩
        else none
      | _ => none
    else none
  | _ => none

/-- An error of a class with some arguments, or the error that comes of building it. -/
def build (family : FaultClass) (args : List Datum) : Except Fault Fault :=
  match Fault.systemArgs? ⟨family, args⟩, miscount? args with
  | some _, some mistake => .error mistake
  | _, _ => .ok ⟨family, args⟩

/-- What a request that does not validate is told to have done wrong. -/
def invalid? (f : Fault) : Option Datum :=
  match f.family, f.args with
  | .requestValidationError, [errors] => some errors
  | _, _ => none

/-- What comes of making a key of a value with a part of this type. -/
def unhashable (typeName : String) : Fault :=
  ⟨.typeError, [.str ("unhashable type: '" ++ typeName ++ "'")]⟩

/-- The text of an error. A missing key is shown as a literal. -/
def text (f : Fault) : String :=
  match f.systemArgs? with
  | some (number, reason, more) => systemText number reason more
  | none =>
    match f.family, f.args with
    | .keyError, [arg] => arg.literal
    | _, args => argsText args

end Fault

namespace Failure

/-- A failure with a status; without a detail the phrase of the status stands in, if it
has one. -/
def ofStatus (code : Int) (detail : Datum) (headers : List (String × String)) : Failure :=
  match detail with
  | .none => .status code (.str ((statusPhrase? code).getD "")) headers
  | detail => .status code detail headers

def className : Failure → String
  | .api _ => "ApiError"
  | .status .. => "HTTPException"
  | .limited .. => "RateLimitExceeded"
  | .fault f => f.className

def text : Failure → String
  | .api e => e.text
  | .status code detail _ => toString code ++ ": " ++ detail.text
  | .limited limit _ => "429: " ++ limit
  | .fault f => f.text

/-- What a client is told about a failure. -/
def classify : Failure → ApiError
  | .api e => e
  | f => ⟨.unclassified, f.className ++ ": " ++ f.text⟩

end Failure

end Gatehouse
