import Gatehouse.Assoc
import Gatehouse.Encoding.Query
import Gatehouse.Number.IntegerText
import Gatehouse.Storage.Fault
import Gatehouse.Text.Word

/-!
# Addresses of databases

An address names a kind of database and a driver, and then a user, a host, a port, a
database and options, all of which may be missing. User, password and database are
written with percent codes, and options as in a query. What cannot be understood at the
end of an address is passed over.
-/

namespace Gatehouse

structure DatabaseUrl where
  /-- The kind of database, with a driver behind a plus sign if one is named. -/
  kind : String
  user : Option String
  password : Option String
  host : Option String
  port : Option Int
  database : Option String
  /-- The options by name, each with its values. -/
  options : List (String × List String)
deriving DecidableEq, Repr

namespace DatabaseUrl

def isKindChar (c : Char) : Bool := c = '+' || Text.isWordChar c

/-- User and password in front of an at sign, and the rest. A password, behind the first
colon, ends at the first at sign; a user without one ends at the last at sign before a
colon or a slash. -/
def splitUser (cs : List Char) : Option (List Char × Option (List Char)) × List Char :=
  let name := cs.takeWhile fun c => c != ':' && c != '/'
  let behind := cs.dropWhile fun c => c != ':' && c != '/'
  let password := (behind.drop 1).takeWhile (· != '@')
  match behind.head?, (behind.drop 1).dropWhile (· != '@') with
  | some ':', _ :: rest => (some (name, some password), rest)
  | _, _ =>
    match name.reverse.dropWhile (· != '@') with
    | [] => (none, cs)
    | _ :: user =>
      (some (user.reverse, none), (name.reverse.takeWhile (· != '@')).reverse ++ behind)

/-- The host at the start of what follows the user, and the rest. A host in brackets may
hold colons. -/
def splitHost (cs : List Char) : Option (List Char) × List Char :=
  let plain := cs.takeWhile fun c => c != '/' && c != ':' && c != '?'
  let asPlain := (if plain.isEmpty then none else some plain, cs.drop plain.length)
  match cs with
  | '[' :: more =>
    let run := more.takeWhile fun c => c != '/' && c != '?'
    match run.reverse.dropWhile (· != ']') with
    | _ :: c :: inner =>
      let host := (c :: inner).reverse
      (some host, more.drop (host.length + 1))
    | _ => asPlain
  | _ => asPlain

/-- What stands behind `mark` up to an ending, if `mark` comes next, and the rest. -/
def splitBehind (mark : Char) (ends : Char → Bool) : List Char → Option (List Char) × List Char
  | [] => (none, [])
  | c :: cs =>
    if c = mark then (some (cs.takeWhile fun c => !ends c), cs.dropWhile fun c => !ends c)
    else (none, c :: cs)

/-- The port that a text stands for. -/
def readPort : Option (List Char) → Except StorageFault (Option Int)
  | none => .ok none
  | some [] => .error .mistyped
  | some cs =>
    match IntegerText.parse? cs with
    | some n => .ok (some n)
    | none => .error .unreadable

/-- Values gathered by name, in the order in which the names first come. -/
def gather (pairs : List (String × String)) : List (String × List String) :=
  pairs.foldl (fun acc p => Assoc.put p.1 ((Assoc.get? p.1 acc).getD [] ++ [p.2]) acc) []

/-- The address that a text denotes. -/
def parse (s : String) : Except StorageFault DatabaseUrl :=
  let cs := s.toList
  let kind := cs.takeWhile isKindChar
  match cs.dropWhile isKindChar with
  | ':' :: '/' :: '/' :: rest =>
    if kind.isEmpty then .error .badAddress
    else
      let (user, rest) := splitUser rest
      let (host, rest) := splitHost rest
      let (port, rest) := splitBehind ':' (fun c => c = '/' || c = '?') rest
      let (database, rest) := splitBehind '/' (· = '?') rest
      let (query, _) := splitBehind '?' (· = '\n') rest
      (readPort port).map fun port =>
        { kind := String.ofList kind
          user := user.map fun u => Query.decodeCodes u.1
          password := (user.bind (·.2)).map Query.decodeCodes
          host := host.map String.ofList
          port
          database := database.map Query.decodeCodes
          options := gather (Query.filledPairs (query.getD [])) }
  | _ => .error .badAddress

/-- The options in the order of their names. -/
def sortedOptions (options : List (String × List String)) : List (String × List String) :=
  options.mergeSort fun a b => decide (a.1 ≤ b.1)

/-- The address as text, its password hidden. -/
def render (u : DatabaseUrl) : String :=
  let credentials := match u.user, u.password with
    | some n, some _ => Percent.encode [' ', '+'] n ++ ":***@"
    | some n, none => Percent.encode [' ', '+'] n ++ "@"
    | none, _ => ""
  let host := match u.host with
    | some h => if h.toList.contains ':' then "[" ++ h ++ "]" else h
    | none => ""
  let port := match u.port with
    | some p => ":" ++ toString p
    | none => ""
  let database := match u.database with
    | some d => "/" ++ Percent.encode [' ', '+', '/'] d
    | none => ""
  let options := (sortedOptions u.options).flatMap fun (name, values) =>
    values.map fun v => Query.encode name ++ "=" ++ Query.encode v
  u.kind ++ "://" ++ credentials ++ host ++ port ++ database ++
    (if options.isEmpty then "" else "?" ++ "&".intercalate options)

/-- The values of an option. -/
def option? (u : DatabaseUrl) (name : String) : Option (List String) := Assoc.get? name u.options

/-- Whether someone or somewhere is named, which a database in a file has no use for. -/
def isRemote (u : DatabaseUrl) : Bool :=
  let given (s : Option String) : Bool := s.any fun s => !s.isEmpty
  given u.user || given u.password || given u.host || u.port.any (· ≠ 0)

end DatabaseUrl

end Gatehouse
