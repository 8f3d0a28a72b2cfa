import Gatehouse.Digest.Sha1
import Gatehouse.Encoding.Dotted
import Gatehouse.Http.Response
import Gatehouse.Json.Bytes
import Gatehouse.Session
import Gatehouse.Text.Blank
import Gatehouse.Text.Search
import Gatehouse.Value.Interchange

/-!
# The cookie that carries the session

The session travels with the client: its content as JSON in base 64, the second at
which it was sent, and a signature over both, joined by dots. What comes back is used
only if the signature is right and it was sent within the last two weeks; anything
else is no session at all. It is sent again when it was changed, and taken back when
nothing is left in it.
-/

namespace Gatehouse.Http.SessionCookie

/-- The name of the cookie. -/
def cookieName : String := "session"

/-- Seconds for which a session lasts. -/
def maxAge : Nat := 1209600

/-! ## Signing -/

/-- The words in front of the secret from which the signing key is made; they are part
of the format. -/
def salt : String := "itsdangerous.Signer" ++ "signer"

def key (secret : String) : List UInt8 := Digest.sha1.run (Text.Utf8.bytes (salt ++ secret))

/-- The bytes of a number, the most significant first and none for zero. -/
def minimalBytes (n : Nat) : List UInt8 :=
  (Digest.numberBytes (n.log2 / 8 + 1) n).dropWhile (· == 0)

/-- The signature of some bytes. -/
def signature (secret : String) (signed : List UInt8) : List UInt8 :=
  Digest.sha1.keyed (key secret) signed

/-- Some bytes with the second at which they are sent and a signature. -/
def sign (secret : String) (second : Nat) (value : List UInt8) : List UInt8 :=
  let signed := value ++ Dotted.dot :: Dotted.segment (minimalBytes second)
  signed ++ Dotted.dot :: Dotted.segment (signature secret signed)

/-- The second that some bytes stand for: a number of at most 64 bits. -/
def secondOf? (text : List UInt8) : Option Nat := do
  let bytes ← Base64.decodeBytes? text
  if bytes.length ≤ 8 then pure (Digest.number bytes) else none

/-- The value and the second of bytes that carry the right signature. -/
def unsign? (secret : String) (bytes : List UInt8) : Option (List UInt8 × Nat) := do
  let (signed, given) ← Dotted.splitLast bytes
  let given ← Base64.decodeBytes? given
  if given = signature secret signed then
    let (value, second) ← Dotted.splitLast signed
    let second ← secondOf? second
    pure (value, second)
  else none

/-- Whether what was sent at a second is still good at another. -/
def isFresh (now second : Int) : Bool := 0 ≤ now - second && now - second ≤ maxAge

/-- The last second of the calendar. -/
def lastSecond : Nat := 253402300799

/-! ## Content -/

/-- The cookie for some content. -/
def ofJson (secret : String) (second : Nat) (content : Json) : String :=
  let text := Text.Utf8.encode (content.print .spacedAscii)
  let value := Text.Utf8.encode (Base64.encode .plain text)
  Dotted.asciiText (sign secret second value)

/-- The content of signed bytes, with at most `depth` lists and objects inside its outermost
one. -/
def contentOf? (depth : Nat) (value : List UInt8) : Option Json := do
  let bytes ← Base64.decode? .plain (value.map fun b => Char.ofNat b.toNat)
  (Json.readBytes .asNumber depth bytes).toOption

/-- The content of a cookie that carries the right signature, whatever its age. -/
def content? (depth : Nat) (secret cookie : String) : Option Json := do
  let (value, _) ← unsign? secret (Text.Utf8.bytes cookie)
  contentOf? depth value

/-- A key and a value given as a list, a text or an object of two. -/
def pairOf? (v : Datum) : Option (Datum × Datum) := do
  match ← v.items? with
  | [k, w] => if k.isHashable then some (k, w) else none
  | _ => none

/-- The entries of a session with this content: an object, or pairs. -/
def entries? : Json → Option (List (Datum × Datum))
  | .obj members => some (Value.ofJsonMembers members)
  | .null => none
  | v => do
    let items ← (Value.ofJson (κ := String) v).items?
    let pairs ← items.mapM pairOf?
    pure (pairs.foldl (fun acc (k, w) => Value.putEntry k w acc) [])

/-! ## Cookies of a request -/

/-- Text between quotes without its escapes. -/
def unescape : List Char → List Char
  | [] => []
  | '\\' :: c :: rest =>
    match c, rest with
    | a, b :: d :: more =>
      if '0' ≤ a ∧ a ≤ '3' ∧ '0' ≤ b ∧ b ≤ '7' ∧ '0' ≤ d ∧ d ≤ '7' then
        Char.ofNat ((a.toNat - 48) * 64 + (b.toNat - 48) * 8 + (d.toNat - 48)) :: unescape more
      else if a = '\n' then '\\' :: '\n' :: unescape (b :: d :: more)
      else a :: unescape (b :: d :: more)
    | a, rest => if a = '\n' then '\\' :: '\n' :: unescape rest else a :: unescape rest
  | c :: rest => c :: unescape rest

/-- The value of a cookie, without quotes if it has them on both sides. -/
def unquote (cs : List Char) : List Char :=
  match cs with
  | '"' :: rest =>
    match rest.reverse with
    | '"' :: inner => unescape inner.reverse
    | _ => cs
  | _ => cs

/-- One cookie: a name and a value; without an equals sign there is no name. -/
def cookieOf (cs : List Char) : Option (String × String) :=
  let (name, value) :=
    match cs.dropWhile (· != '=') with
    | [] => ([], cs)
    | _ :: behind => (cs.takeWhile (· != '='), behind)
  let name := Text.trimBlanks name
  let value := Text.trimBlanks value
  if name.isEmpty && value.isEmpty then none
  else some (String.ofList name, String.ofList (unquote value))

/-- The cookies of a line in order. -/
def cookiesOf (line : String) : List (String × String) :=
  (Text.pieces ';' line.toList).filterMap cookieOf

/-- The cookies of a request in order. -/
def cookies (r : Request) : List (String × String) := (r.headers.all "cookie").flatMap cookiesOf

/-- The session cookie of a request, the last one if there are several. -/
def cookie? (r : Request) : Option String := (cookies r).reverse.lookup cookieName

/-! ## In and out -/

/-- A session that has come in. -/
structure Arrival where
  session : Session
  /-- Whether the client has a good session cookie. -/
  carried : Bool

/-- The session of a request at a second; `none` if a signed cookie does not hold one, or
if it cannot be said when it was sent although it is not of these two weeks. -/
def load (depth : Nat) (secret : String) (now : Int) (r : Request) : Option Arrival :=
  match (cookie? r).bind fun c => unsign? secret (Text.Utf8.bytes c) with
  | none => some ⟨.ofEntries [], false⟩
  | some (value, second) =>
    if isFresh now second then do
      let content ← contentOf? depth value
      let entries ← entries? content
      pure ⟨.ofEntries entries, true⟩
    else if lastSecond < second then none
    else some ⟨.ofEntries [], false⟩

/-- What is said about the cookie whether it is sent or taken back. -/
def flags (secure : Bool) : String :=
  "httponly; samesite=lax" ++ (if secure then "; secure" else "")

/-- The header that sends a session. -/
def sending (secure : Bool) (cookie : String) : String :=
  cookieName ++ "=" ++ cookie ++ "; path=/; Max-Age=" ++ toString maxAge ++ "; " ++ flags secure

/-- The header that takes the session back. -/
def clearing (secure : Bool) : String :=
  cookieName ++ "=null; path=/; expires=Thu, 01 Jan 1970 00:00:00 GMT; " ++ flags secure

/-- The headers that bring the session to the client. -/
def cookieHeaders (secret : String) (secure : Bool) (second : Nat) (carried : Bool) (s : Session) :
    Except Value.NotJson Headers :=
  if !s.changed then .ok []
  else if s.entries.isEmpty then
    .ok (if carried then [("set-cookie", clearing secure)] else [])
  else do
    let content ← Value.toJson (.dict s.entries)
    pure [("set-cookie", sending secure (ofJson secret second content))]

/-- A response that brings the session to the client. -/
def save (secret : String) (secure : Bool) (second : Nat) (carried : Bool) (s : Session)
    (response : Response) : Except Value.NotJson Response := do
  let extra ← cookieHeaders secret secure second carried s
  let headers := response.headers ++ extra
  pure { response with headers := if s.touched then headers.addVary "Cookie" else headers }

end Gatehouse.Http.SessionCookie
