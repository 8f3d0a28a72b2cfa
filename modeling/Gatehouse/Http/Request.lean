import Gatehouse.Http.Host
import Gatehouse.Text.Case
import Gatehouse.Text.Utf8

/-!
# Requests

A request as it arrives: its path is already decoded, its headers and its query are
text of one byte to a character, and the names of headers are in small letters.

Its address names the host that its header names, or else the one it has come to. An
address without any host is taken apart as it stands, and what its path begins with may
then look like something else than a path.
-/

namespace Gatehouse.Http

abbrev Headers := List (String × String)

/-- The value of the first header of a name. -/
def Headers.first? (name : String) (hs : Headers) : Option String := hs.lookup name

/-- All values under a name, in order. -/
def Headers.all (name : String) (hs : Headers) : List String :=
  (hs.filter fun h => h.1 = name).map (·.2)

/-- Headers with their names in small letters. -/
def Headers.ofPairs (pairs : List (String × String)) : Headers :=
  pairs.map fun (name, value) => (Text.lower name, value)

structure Request where
  method : String
  path : String
  /-- What stands behind the question mark. -/
  query : String
  headers : Headers
  body : String
  /-- The address that the request comes from, if it is known. -/
  client : Option String
  /-- The host that the request has come to, if it is known. -/
  server : Option String
deriving Inhabited

namespace Request

/-- How one character of a path stands in an address: those that would end the path
are written as codes. -/
def addressChar (c : Char) : List Char :=
  if c = '?' then ['%', '3', 'F']
  else if c = '#' then ['%', '2', '3']
  else if c = '\\' then ['%', '5', 'C']
  else [c]

/-- The host in the address: that of the header if it names one, or else the one that
the request has come to. -/
def host? (r : Request) : Option String :=
  ((r.headers.first? "host").filter Host.isValid).or r.server

/-- A path behind a host: unless it is empty, it starts with a slash. -/
def pathBehindHost : List Char → List Char
  | [] => []
  | '/' :: rest => '/' :: rest.flatMap addressChar
  | rest => '/' :: rest.flatMap addressChar

/-- A path without a host in front: a second slash is written as a code, so that what
follows is not taken for a host. -/
def barePath : List Char → List Char
  | '/' :: '/' :: rest => '/' :: '%' :: '2' :: 'F' :: rest.flatMap addressChar
  | rest => rest.flatMap addressChar

/-- Line breaks and tabs, which no part of an address keeps when it is taken apart. -/
def isStripped (c : Char) : Bool := c = '\t' || c = '\r' || c = '\n'

def isLetter (c : Char) : Bool := ('a' ≤ c && c ≤ 'z') || ('A' ≤ c && c ≤ 'Z')

def isSchemeChar (c : Char) : Bool :=
  isLetter c || Host.isDigit c || c = '+' || c = '-' || c = '.'

/-- What follows a scheme, if there is one. -/
def withoutScheme (cs : List Char) : List Char :=
  match cs.takeWhile isSchemeChar, cs.dropWhile isSchemeChar with
  | c :: _, ':' :: rest => if isLetter c then rest else cs
  | _, _ => cs

/-- What follows a host, if there is one. -/
def withoutHost : List Char → List Char
  | '/' :: '/' :: rest => rest.dropWhile (· != '/')
  | cs => cs

/-- The path in an address that is taken apart without knowing of a host. -/
def pathTakenApart (cs : List Char) : List Char :=
  withoutHost (withoutScheme ((cs.dropWhile fun c => c.toNat ≤ 0x20).filter fun c => !isStripped c))

/-- The path as logs and handlers see it. -/
def shownPath (r : Request) : String :=
  String.ofList
    (match r.host? with
    | some _ => (pathBehindHost r.path.toList).filter fun c => !isStripped c
    | none => pathTakenApart (barePath r.path.toList))

/-- The query as characters; its bytes must be well-formed. -/
def queryText? (r : Request) : Option String :=
  Text.Utf8.text? (r.query.toList.map fun c => UInt8.ofNat c.toNat)

/-- Whether the request has an address at all. -/
def hasAddress (r : Request) : Bool := r.queryText?.isSome

end Request

end Gatehouse.Http
