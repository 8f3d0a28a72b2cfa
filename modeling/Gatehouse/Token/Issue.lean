import Gatehouse.Encoding.Dotted
import Gatehouse.Json.Printer
import Gatehouse.Token.Basic
import Gatehouse.Token.Key

/-!
# Issuing tokens

The payload names the subject, the role and the second at which the token ends, in
this order. A lifetime that is not positive stands for the configured one, and an end
outside the calendar is refused.
-/

namespace Gatehouse.Token

/-- How many lists and objects may stand inside the outermost one of JSON, where a token or
its secret is read as such. -/
structure Depths where
  header : Nat
  secret : Nat
  payload : Nat

/-- How tokens are signed, how long they last, and how they are read. -/
structure Config where
  secret : Datum
  /-- The name of the algorithm as configured, whether there is one of that name or not. -/
  algorithm : String
  lifetime : Datum
  depths : Depths

/-- Why no token was issued. -/
inductive IssueFault where
  | notComparable (typeName : String)
  | notADuration (typeName : String)
  | durationNotANumber
  | durationInfinite
  | durationTooLong
  | tooManyDays (days : Int)
  | endOutOfRange
  | notJson (why : Value.NotJson)
  | unknownAlgorithm (name : String)
  | badKey (why : KeyFault)
  /-- Nothing can be signed with this algorithm. -/
  | cannotSign

namespace IssueFault

def message : IssueFault → String
  | .notComparable typeName =>
    "'>' not supported between instances of '" ++ typeName ++ "' and 'int'"
  | .notADuration typeName => "unsupported type for timedelta seconds component: " ++ typeName
  | .durationNotANumber => "cannot convert float NaN to integer"
  | .durationInfinite => "cannot convert float infinity to integer"
  | .durationTooLong => "Python int too large to convert to C int"
  | .tooManyDays days => "days=" ++ toString days ++ "; must have magnitude <= 999999999"
  | .endOutOfRange => "date value out of range"
  -- a number that is too long is noticed late, when the claims are to be bytes
  | .notJson .tooLong => "a bytes-like object is required, not 'dict'"
  | .notJson why => why.message
  | .unknownAlgorithm name => "Algorithm " ++ name ++ " not supported."
  | .badKey why => why.message
  | .cannotSign => ""

def family : IssueFault → FaultClass
  | .notComparable _ | .notADuration _ | .notJson _ => .typeError
  | .durationNotANumber => .valueError
  | .durationInfinite | .durationTooLong | .tooManyDays _ | .endOutOfRange => .overflowError
  | .unknownAlgorithm _ | .badKey _ | .cannotSign => .signingError

def fault (f : IssueFault) : Fault := ⟨f.family, [.str f.message]⟩

end IssueFault

/-- Microseconds in a second and in a day. -/
def perSecond : Nat := 1000000

def perDay : Nat := 86400000000

/-- Whether a number is above zero. -/
def isPositive : Datum → Except IssueFault Bool
  | .bool b => .ok b
  | .int n => .ok (decide (0 < n))
  | .float .nan => .ok false
  | .float (.infinite negative) => .ok (!negative)
  | .float (.finite negative m _ _) => .ok (!negative && m != 0)
  | v => .error (.notComparable v.typeName)

/-- A floating point number of seconds in microseconds: the whole seconds count exactly,
and the rest of a second is scaled as a floating point number before it is rounded. -/
def floatMicroseconds : Binary64 → Int
  | .finite negative m e _ =>
    let (n, d) := Binary64.ratio m e
    let rest := ((Binary64.ofRatio false (n % d * perSecond) d).scaled? 1).getD 0
    let size : Int := n / d * perSecond + rest
    if negative then -size else size
  | _ => 0

/-- A number of seconds in microseconds. -/
def microseconds : Datum → Except IssueFault Int
  | .bool b => .ok (if b then perSecond else 0)
  | .int n => .ok (n * perSecond)
  | .float .nan => .error .durationNotANumber
  | .float (.infinite _) => .error .durationInfinite
  | .float x => .ok (floatMicroseconds x)
  | v => .error (.notADuration v.typeName)

/-- The first and the last second of the calendar. -/
def firstSecond : Int := -62135596800

def lastSecond : Int := 253402300799

/-- The second in which `now + duration` lies, both in microseconds. -/
def endSecond (now duration : Int) : Except IssueFault Int :=
  let days := Int.fdiv duration perDay
  if days < -2147483648 ∨ 2147483647 < days then .error .durationTooLong
  else if days < -999999999 ∨ 999999999 < days then .error (.tooManyDays days)
  else
    let second := Int.fdiv (now + duration) perSecond
    if second < firstSecond ∨ lastSecond < second then .error .endOutOfRange else .ok second

/-- The signature of some bytes. -/
def signature (a : Algorithm) (key message : List UInt8) : List UInt8 :=
  a.digest.keyed key message

def headerJson (algorithm : String) : Json :=
  .obj [("alg", .str algorithm), ("typ", .str "JWT")]

def payloadJson (subject role : Json) (ends : Int) : Json :=
  .obj [("sub", subject), ("role", role), ("exp", .int ends)]

/-- The bytes of a JSON value in a token. -/
def jsonBytes (v : Json) : List UInt8 := Text.Utf8.encode (Json.print .compactAscii v)

/-- The bytes that are signed: header and payload joined by a dot. -/
def signedPart (algorithm : String) (payload : Json) : List UInt8 :=
  Dotted.segment (jsonBytes (headerJson algorithm)) ++
    Dotted.dot :: Dotted.segment (jsonBytes payload)

/-- A token with this payload. -/
def sign (c : Config) (payload : Json) : Except IssueFault String :=
  if Scheme.isOffered c.algorithm then
    match makeKey c.algorithm c.secret with
    | .error why => .error (.badKey why)
    | .ok none => .error .cannotSign
    | .ok (some (a, key)) =>
      let signed := signedPart c.algorithm payload
      .ok (Dotted.asciiText (signed ++ Dotted.dot :: Dotted.segment (signature a key signed)))
  else .error (.unknownAlgorithm c.algorithm)

/-- A token for a subject and a role that ends after `duration` microseconds. -/
def issueFor (c : Config) (now duration : Int) (subject role : Datum) :
    Except IssueFault String := do
  let ends ← endSecond now duration
  if Scheme.isOffered c.algorithm then
    let subject ← subject.toJson.mapError .notJson
    let role ← role.toJson.mapError .notJson
    sign c (payloadJson subject role ends)
  else throw (.unknownAlgorithm c.algorithm)

/-- A token for a subject and a role; a lifetime that is not above zero stands for
the configured one. -/
def issue (c : Config) (now : Int) (subject role lifetime : Datum) :
    Except IssueFault String := do
  let given ← isPositive lifetime
  let duration ← microseconds (if given then lifetime else c.lifetime)
  issueFor c now duration subject role

/-- A token that has ended a minute ago. -/
def issueExpired (c : Config) (now : Int) (subject role : Datum) : Except IssueFault String :=
  issueFor c now (-60 * perSecond) subject role

end Gatehouse.Token
