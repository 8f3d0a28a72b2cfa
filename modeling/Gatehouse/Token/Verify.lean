import Gatehouse.Number.IntegerText
import Gatehouse.Token.Issue

/-!
# Checking tokens

The header of a token is read before anything is made of the rest, so that it may be what
cannot be read even where the rest is no token at all. A token is believed, even as an
expired one, only if its header names the configured algorithm and its signature is the keyed
digest of the text before it. Then its claims are looked at in a fixed order: the times, the
audience, the names. The times may be numbers or texts of numbers and count in whole seconds.
-/

namespace Gatehouse.Token

/-- The parts of a token as bytes: header, payload, signature, and the text that was
signed. -/
structure Parts where
  header : List UInt8
  payload : List UInt8
  signature : List UInt8
  signed : List UInt8

/-- The header of a token, if it has three parts and this one can be decoded. -/
def header? (token : String) : Option (List UInt8) := do
  let (signed, _) ← Dotted.splitLast (Text.Utf8.bytes token)
  let (header, _) ← Dotted.splitFirst signed
  Base64.decodeBytes? header

/-- The parts of a token, if it has three that can be decoded. -/
def parts? (token : String) : Option Parts := do
  let (signed, signature) ← Dotted.splitLast (Text.Utf8.bytes token)
  let (header, payload) ← Dotted.splitFirst signed
  let header ← Base64.decodeBytes? header
  let payload ← Base64.decodeBytes? payload
  let signature ← Base64.decodeBytes? signature
  pure ⟨header, payload, signature, signed⟩

/-- The members of a JSON object in bytes, if that is what they hold. -/
def objectOf (depth : Nat) (bytes : List UInt8) :
    Except Json.Misread (Option (List (String × Json))) :=
  match (Text.Utf8.decode? bytes).map (Json.readOuter depth) with
  | some (.ok (.obj members)) => .ok (some members)
  | some (.error (.tooDeep isObject)) => .error (.tooDeep isObject)
  | _ => .ok none

/-- Whether one of the candidates is a key that gives this signature. -/
def signedByAny (algorithm : String) (signed given : List UInt8) :
    List Datum → Except KeyFault Bool
  | [] => .ok false
  | candidate :: rest =>
    match makeKey algorithm candidate with
    | .error why => .error why
    | .ok none => signedByAny algorithm signed given rest
    | .ok (some (a, key)) =>
      if signature a key signed = given then .ok true
      else signedByAny algorithm signed given rest

/-- Why a token could not be judged. -/
inductive VerifyFault where
  | badKey (why : KeyFault)
  /-- A time is of a type that is no number. -/
  | notANumber (typeName : String)
  | infiniteTime
  /-- The header or the payload goes too deep to be read. -/
  | tooDeep (why : Json.Misread)
  /-- The token has halves of surrogate pairs without a partner. -/
  | notCharacters (points : List Nat)

namespace VerifyFault

def message : VerifyFault → String
  | .badKey why => why.message
  | .notANumber typeName =>
    "int() argument must be a string, a bytes-like object or a real number, not '" ++
      typeName ++ "'"
  | .infiniteTime => "cannot convert float infinity to integer"
  | .tooDeep why => why.message
  | .notCharacters points => KeyFault.notCharactersMessage points

def family : VerifyFault → FaultClass
  | .badKey why => why.family
  | .notANumber _ => .typeError
  | .infiniteTime => .overflowError
  | .tooDeep _ => .recursionError
  | .notCharacters _ => .unicodeEncodeError

def fault (f : VerifyFault) : Fault := ⟨f.family, [.str f.message]⟩

end VerifyFault

/-- A time in whole seconds; `none` for a text or a number that is none. -/
def wholeSeconds : Json → Except VerifyFault (Option Int)
  | .int n => .ok (some n)
  | .bool b => .ok (some (if b then 1 else 0))
  | .float .nan => .ok none
  | .float (.infinite _) => .error .infiniteTime
  | .float x => .ok x.truncate?
  | .str s => .ok (IntegerText.parse? s.toList)
  | .unpaired _ => .ok none
  | v => .error (.notANumber (Value.ofJson (κ := String) v).typeName)

/-- One check of the claims: it ends the matter with a verdict or leaves it open. -/
abbrev ClaimCheck := List (String × Json) → Except VerifyFault (Option Verdict)

/-- A check of a time, if the claim is there; `judge` gets the seconds. -/
def timeCheck (name : String) (judge : Int → Option Verdict) : ClaimCheck := fun claims =>
  match claims.lookup name with
  | none => .ok none
  | some v =>
    match wholeSeconds v with
    | .error e => .error e
    | .ok none => .ok (some .invalid)
    | .ok (some n) => .ok (judge n)

/-- A claim that must not be there. -/
def absenceCheck (name : String) : ClaimCheck := fun claims =>
  .ok (if (claims.lookup name).isSome then some .invalid else none)

/-- A claim that must be a text if it is there. -/
def textCheck (name : String) : ClaimCheck := fun claims =>
  .ok (match claims.lookup name with
    | none | some (.str _) | some (.unpaired _) => none
    | some _ => some .invalid)

/-- The checks in their order. -/
def claimChecks (now : Int) : List ClaimCheck :=
  [ timeCheck "iat" fun _ => none,
    timeCheck "nbf" fun n => if now < n then some .invalid else none,
    timeCheck "exp" fun n => if n < now then some .expired else none,
    absenceCheck "aud",
    textCheck "sub",
    textCheck "jti",
    absenceCheck "at_hash" ]

/-- Whether a claim is a text. -/
def isText : Json → Bool
  | .str _ | .unpaired _ => true
  | _ => false

/-- Who the claims stand for, once no check has ended the matter. -/
def bearer (claims : List (String × Json)) : Verdict :=
  match claims.lookup "sub", claims.lookup "role" with
  | some subject, some role =>
    if isText subject && isText role then .accepted ⟨subject, role⟩ else .invalid
  | _, _ => .invalid

/-- The first verdict of the checks, or the bearer. -/
def runChecks (claims : List (String × Json)) : List ClaimCheck → Except VerifyFault Verdict
  | [] => .ok (bearer claims)
  | check :: rest =>
    match check claims with
    | .error e => .error e
    | .ok (some v) => .ok v
    | .ok none => runChecks claims rest

/-- What the claims of an authentic token say at the second `now`. -/
def judge (depth : Nat) (now : Int) (payload : List UInt8) : Except VerifyFault Verdict :=
  match objectOf depth payload with
  | .error why => .error (.tooDeep why)
  | .ok none => .ok .invalid
  | .ok (some claims) => runChecks claims (claimChecks now)

/-- Whether the header names the configured algorithm. -/
def namesAlgorithm (c : Config) (header : List (String × Json)) : Bool :=
  match header.lookup "alg" with
  | some (.str name) => !name.isEmpty && name == c.algorithm
  | _ => false

/-- The verdict on a token at a time in microseconds. -/
def verify (c : Config) (now : Int) (token : String) : Except VerifyFault Verdict :=
  match header? token with
  | none => .ok .invalid
  | some header =>
    match objectOf c.depths.header header with
    | .error why => .error (.tooDeep why)
    | .ok none => .ok .invalid
    | .ok (some header) =>
      match parts? token with
      | none => .ok .invalid
      | some p =>
        if namesAlgorithm c header then
          match candidates c.depths.secret c.secret with
          | .error why => .error (.badKey why)
          | .ok keys =>
            match signedByAny c.algorithm p.signed p.signature keys with
            | .error why => .error (.badKey why)
            | .ok false => .ok .invalid
            | .ok true => judge c.depths.payload (Int.fdiv now perSecond) p.payload
        else .ok .invalid

/-- The verdict on whatever is shown as a token: only text can be one, and it is looked at
in bytes. -/
def verifyDatum (c : Config) (now : Int) : Datum → Except VerifyFault Verdict
  | .str token => verify c now token
  | .unpaired points => .error (.notCharacters points)
  | _ => .ok .invalid

end Gatehouse.Token
