import Gatehouse.Encoding.Percent

/-!
# The parts of a query

A query is a list of names and values between ampersands. A plus sign is a blank, and
percent codes are bytes of UTF-8; broken ones become the replacement character. Only
runs of ASCII characters are decoded, other characters stand for themselves.
-/

namespace Gatehouse.Query

def isAscii (c : Char) : Bool := c.toNat < 0x80

/-- A run of ASCII characters decoded. -/
def decodeRun (run : List Char) : List Char :=
  Text.Utf8.decodeLossy (Percent.decode (run.map fun c => UInt8.ofNat c.toNat))

/-- A text decoded run by run; `run` holds the current run backwards. -/
def decodeRuns (run : List Char) : List Char → List Char
  | [] => decodeRun run.reverse
  | c :: rest =>
    if isAscii c then decodeRuns (c :: run) rest
    else decodeRun run.reverse ++ c :: decodeRuns [] rest

/-- A text in which only percent codes are decoded. -/
def decodeCodes (cs : List Char) : String := String.ofList (decodeRuns [] cs)

/-- One name or value decoded. -/
def decode (cs : List Char) : String :=
  decodeCodes (cs.map fun c => if c = '+' then ' ' else c)

/-- The pieces of a text between separators. -/
def split (separator : Char) : List Char → List (List Char)
  | [] => [[]]
  | c :: rest =>
    if c = separator then [] :: split separator rest
    else match split separator rest with
      | [] => [[c]]
      | piece :: pieces => (c :: piece) :: pieces

/-- A name and its value; without an equals sign the value is empty. -/
def pair (piece : List Char) : String × String :=
  (decode (piece.takeWhile (· != '=')), decode ((piece.dropWhile (· != '=')).drop 1))

/-- The names and values of a query. -/
def pairs (query : String) : List (String × String) :=
  ((split '&' query.toList).filter fun piece => !piece.isEmpty).map pair

/-- Whether something stands behind the first equals sign. -/
def hasValue (piece : List Char) : Bool := !((piece.dropWhile (· != '=')).drop 1).isEmpty

/-- The names and values of a query, without those that have no value. -/
def filledPairs (query : List Char) : List (String × String) :=
  ((split '&' query).filter hasValue).map pair

/-- A name or a value as it stands in a query. -/
def encode (s : String) : String :=
  String.ofList ((Percent.encode [' '] s).toList.map fun c => if c = ' ' then '+' else c)

end Gatehouse.Query
