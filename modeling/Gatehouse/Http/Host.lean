/-!
# Names of hosts

A host is named by letters, digits and some marks, or by an address of eight groups of
hexadecimal digits between brackets; behind a colon a port may follow. Anything else
names no host.
-/

namespace Gatehouse.Http.Host

def isDigit (c : Char) : Bool := '0' ≤ c && c ≤ '9'

def isHexDigit (c : Char) : Bool :=
  isDigit c || ('a' ≤ c && c ≤ 'f') || ('A' ≤ c && c ≤ 'F')

/-- Marks that may stand in a name beside letters and digits. -/
def marks : List Char := "-._~%!$&'()*+,;=".toList

def isNameChar (c : Char) : Bool :=
  isDigit c || ('a' ≤ c && c ≤ 'z') || ('A' ≤ c && c ≤ 'Z') || marks.contains c

/-- The pieces of a text between separators. -/
def pieces (separator : Char) : List Char → List (List Char)
  | [] => [[]]
  | c :: rest =>
    if c = separator then [] :: pieces separator rest
    else match pieces separator rest with
      | [] => [[c]]
      | piece :: more => (c :: piece) :: more

def numberOf (ds : List Char) : Nat := ds.foldl (fun n c => n * 10 + (c.toNat - 48)) 0

/-- Whether a piece is one of the four numbers of a short address. -/
def isOctet (cs : List Char) : Bool :=
  !cs.isEmpty && cs.length ≤ 3 && cs.all isDigit && numberOf cs ≤ 255 &&
    !(1 < cs.length && cs.head? = some '0')

def isShortAddress (cs : List Char) : Bool :=
  let octets := pieces '.' cs
  octets.length == 4 && octets.all isOctet

def isGroup (cs : List Char) : Bool := !cs.isEmpty && cs.length ≤ 4 && cs.all isHexDigit

/-- The number of groups that pieces stand for; a short address may end them and counts
for two. -/
def countGroups? : List (List Char) → Option Nat
  | [] => some 0
  | [last] => if isGroup last then some 1 else if isShortAddress last then some 2 else none
  | piece :: rest => if isGroup piece then (countGroups? rest).map (· + 1) else none

/-- The number of groups on one side of a gap. -/
def countSide? (pieces : List (List Char)) : Option Nat :=
  match pieces with
  | [[]] => some 0
  | _ => countGroups? pieces

/-- The pieces before and behind the first empty one inside, if there is one. -/
def splitGap? : List (List Char) → Option (List (List Char) × List (List Char))
  | first :: [] :: rest =>
    match rest with
    | [] => none
    | _ => some ([first], rest)
  | first :: rest => (splitGap? rest).map fun (before, behind) => (first :: before, behind)
  | [] => none

/-- Whether a text is a long address: eight groups, or fewer with one gap for the rest. -/
def isLongAddress (cs : List Char) : Bool :=
  let all := pieces ':' cs
  match splitGap? all with
  | none => countGroups? all == some 8
  | some (before, behind) =>
    match countSide? before, countSide? behind with
    | some m, some n => decide (m + n < 8)
    | _, _ => false

/-- Whether nothing or a port follows the name. -/
def isPortPart : List Char → Bool
  | [] => true
  | ':' :: ds => !ds.isEmpty && ds.all isDigit && decide (numberOf ds ≤ 65535)
  | _ => false

/-- Whether a text names a host. -/
def isValid (s : String) : Bool :=
  match s.toList with
  | '[' :: rest =>
    match rest.dropWhile (· != ']') with
    | ']' :: port => isLongAddress (rest.takeWhile (· != ']')) && isPortPart port
    | _ => false
  | cs =>
    let name := cs.takeWhile isNameChar
    !name.isEmpty && isPortPart (cs.dropWhile isNameChar)

end Gatehouse.Http.Host
