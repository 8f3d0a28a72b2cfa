import Gatehouse.Http.Request
import Gatehouse.Json.Printer
import Gatehouse.Text.Search
import Gatehouse.Text.Utf8

/-!
# Responses

A response has a status, headers and a body of text. Unless they are given, the
length of the body and its media type are announced; some statuses never announce a
length.
-/

namespace Gatehouse.Http

structure Response where
  status : Int
  headers : Headers
  body : String
deriving DecidableEq, Repr, Inhabited

namespace Headers

/-- Sets a header: the first of its name takes the value and the others go. -/
def set (name value : String) (hs : Headers) : Headers :=
  if hs.any fun h => h.1 = name then
    (hs.takeWhile fun h => h.1 ≠ name) ++
      (name, value) :: ((hs.dropWhile fun h => h.1 ≠ name).drop 1).filter fun h => h.1 ≠ name
  else hs ++ [(name, value)]

/-- Adds to what a response depends on: all that was named before, and `what`. -/
def addVary (what : String) (hs : Headers) : Headers :=
  hs.set "vary" (String.intercalate ", " (hs.all "vary" ++ [what]))

end Headers

namespace Response

/-- Whether responses of a status say how long their body is. -/
def announcesLength (status : Int) : Bool :=
  !(status < 200 || status = 204 || status = 304)

/-- A media type; text is written in UTF-8 unless another charset is named. -/
def mediaTypeHeader (mediaType : String) : String :=
  if Text.startsWith "text/" mediaType &&
      !Text.occursIn "charset=".toList (Text.lower mediaType).toList then
    mediaType ++ "; charset=utf-8"
  else mediaType

/-- The number of bytes of a body. -/
def bodyLength (body : String) : Nat := (Text.Utf8.bytes body).length

/-- A response with these headers and those that are announced beside them. -/
def make (status : Int) (mediaType : Option String) (given : List (String × String))
    (body : String) : Response :=
  let given := Headers.ofPairs given
  let missing (name : String) : Bool := (given.first? name).isNone
  let length :=
    if announcesLength status && missing "content-length" then
      [("content-length", toString (bodyLength body))]
    else []
  let media :=
    match mediaType with
    | some m => if missing "content-type" then [("content-type", mediaTypeHeader m)] else []
    | none => []
  ⟨status, given ++ length ++ media, body⟩

/-- A response of plain text. -/
def plain (status : Int) (given : List (String × String)) (body : String) : Response :=
  make status (some "text/plain") given body

/-- A response of JSON. -/
def json (status : Int) (given : List (String × String)) (v : Json) : Response :=
  make status (some "application/json") given (v.render .compact)

/-- A response without content. -/
def empty : Response := make 204 none [] ""

/-- Whether all characters of a text can stand in a header. -/
def fitsHeader (s : String) : Bool := s.toList.all fun c => c.toNat < 0x100

/-- Whether headers can be sent as they are. -/
def fitHeaders (given : List (String × String)) : Bool :=
  given.all fun (name, value) => fitsHeader (Text.lower name) && fitsHeader value

end Response

end Gatehouse.Http
