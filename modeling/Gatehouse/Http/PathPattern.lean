import Gatehouse.Number.Binary64
import Gatehouse.Number.IntegerText
import Gatehouse.Value.Basic

/-!
# Patterns of paths

The path of a route may have parameters in braces, each of which stands for a piece
of the path of one sort: text without a slash, any text, a whole number, a number or
an identifier of sixteen bytes. A path matches if the pieces can be chosen so that
everything fits; earlier parameters take as much as they can. A line break at the
very end of the path is overlooked. What a piece may be says nothing about its length,
but a whole number is read only if it does not have too many digits.
-/

namespace Gatehouse.Http

/-- What a parameter stands for. -/
inductive ParamSort where
  | segment
  | anything
  | whole
  | decimal
  | uuid
deriving DecidableEq, Repr

namespace ParamSort

/-- The sort of this name. A parameter that names none stands for a segment. -/
def ofName? : String → Option ParamSort
  | "str" => some segment
  | "path" => some anything
  | "int" => some whole
  | "float" => some decimal
  | "uuid" => some uuid
  | _ => none

end ParamSort

/-- A part of a pattern. -/
inductive PatternPart where
  | literal (c : Char)
  | param (name : String) (sort : ParamSort)
deriving DecidableEq, Repr

abbrev PathPattern := List PatternPart

/-- Why a path cannot be used as a pattern. -/
inductive PatternError where
  | unknownSort (name : String)
  | repeatedParams (names : List String) (path : String)
deriving DecidableEq, Repr

namespace PatternError

def message : PatternError → String
  | .unknownSort name => "Unknown path convertor '" ++ name ++ "'"
  | .repeatedParams names path =>
    "Duplicated param name" ++ (if names.length > 1 then "s" else "") ++ " " ++
      String.intercalate ", " names ++ " at path " ++ path

end PatternError

namespace PathPattern

def isNameStart (c : Char) : Bool :=
  ('a' ≤ c && c ≤ 'z') || ('A' ≤ c && c ≤ 'Z') || c = '_'

def isNameChar (c : Char) : Bool := isNameStart c || ('0' ≤ c && c ≤ '9')

/-- A name at the start of a text, and what follows it. -/
def name? (cs : List Char) : Option (String × List Char) :=
  match cs with
  | c :: _ =>
    if isNameStart c then
      some (String.ofList (cs.takeWhile isNameChar), cs.dropWhile isNameChar)
    else none
  | [] => none

/-- A parameter behind an opening brace: its name, the name of its sort, and what
follows the closing brace. -/
def param? (cs : List Char) : Option (String × String × List Char) := do
  let (name, rest) ← name? cs
  match rest with
  | '}' :: rest => some (name, "str", rest)
  | ':' :: rest =>
    let (sort, rest) ← name? rest
    match rest with
    | '}' :: rest => some (name, sort, rest)
    | _ => none
  | _ => none

/-- The parts of a path. A brace that opens no parameter stands for itself. -/
def partsUpTo : Nat → List Char → Except PatternError PathPattern
  | 0, _ => .ok []
  | _, [] => .ok []
  | fuel + 1, c :: rest =>
    match if c = '{' then param? rest else none with
    | some (name, sortName, behind) =>
      match ParamSort.ofName? sortName with
      | none => .error (.unknownSort sortName)
      | some sort => (partsUpTo fuel behind).map (.param name sort :: ·)
    | none => (partsUpTo fuel rest).map (.literal c :: ·)

/-- The names of the parameters in order. -/
def paramNames (p : PathPattern) : List String :=
  p.filterMap fun
    | .param name _ => some name
    | .literal _ => none

/-- The names that stand more than once. -/
def repeated (names : List String) : List String :=
  ((names.filter fun n => 1 < names.count n).eraseDups).mergeSort fun a b => decide (a ≤ b)

/-- The pattern that a path denotes. -/
def ofPath (path : String) : Except PatternError PathPattern := do
  let cs := path.toList
  let parts ← partsUpTo cs.length cs
  match repeated (paramNames parts) with
  | [] => pure parts
  | names => throw (.repeatedParams names path)

/-! ## Matching -/

def isDigit (c : Char) : Bool := '0' ≤ c && c ≤ '9'

def isHexDigit (c : Char) : Bool :=
  isDigit c || ('a' ≤ c && c ≤ 'f') || ('A' ≤ c && c ≤ 'F')

/-- The ways to cut a run of at least one character off a text, the longest first. -/
def cuts (p : Char → Bool) : List Char → List (List Char × List Char)
  | [] => []
  | c :: rest =>
    if p c then (cuts p rest).map (fun (a, b) => (c :: a, b)) ++ [([c], rest)] else []

/-- The same with the empty run as the last way. -/
def cutsOrNone (p : Char → Bool) (cs : List Char) : List (List Char × List Char) :=
  cuts p cs ++ [([], cs)]

/-- The ways to read a point and digits behind it, or nothing. -/
def fractionCuts : List Char → List (List Char × List Char)
  | '.' :: rest => (cuts isDigit rest).map (fun (a, b) => ('.' :: a, b)) ++ [([], '.' :: rest)]
  | cs => [([], cs)]

/-- A run of exactly `n` hexadecimal digits. -/
def hexRun : Nat → List Char → Option (List Char × List Char)
  | 0, cs => some ([], cs)
  | n + 1, c :: rest =>
    if isHexDigit c then (hexRun n rest).map fun (a, b) => (c :: a, b) else none
  | _ + 1, [] => none

/-- The digits of an identifier in groups of these sizes, a dash between two groups
being read if it is there. -/
def hexGroups : List Nat → List Char → Option (List Char × List Char)
  | [], cs => some ([], cs)
  | [n], cs => hexRun n cs
  | n :: ns, cs => do
    let (a, rest) ← hexRun n cs
    match rest with
    | '-' :: rest =>
      let (b, rest) ← hexGroups ns rest
      pure (a ++ '-' :: b, rest)
    | rest =>
      let (b, rest) ← hexGroups ns rest
      pure (a ++ b, rest)

/-- The ways to cut a piece of a sort off a path, in the order in which they are
tried. -/
def pieces : ParamSort → List Char → List (List Char × List Char)
  | .segment, cs => cuts (· != '/') cs
  | .anything, cs => cutsOrNone (· != '\n') cs
  | .whole, cs => cuts isDigit cs
  | .decimal, cs =>
    (cuts isDigit cs).flatMap fun (a, rest) =>
      (fractionCuts rest).map fun (b, rest) => (a ++ b, rest)
  | .uuid, cs => (hexGroups [8, 4, 4, 4, 12] cs).toList

/-- What the parameters stand for if the rest of a path matches the rest of a pattern. -/
def matchFrom : PathPattern → List Char → Option (List (String × ParamSort × List Char))
  | [], cs => if cs.isEmpty || cs == ['\n'] then some [] else none
  | .literal c :: parts, d :: rest => if c = d then matchFrom parts rest else none
  | .literal _ :: _, [] => none
  | .param name sort :: parts, cs =>
    (pieces sort cs).findSome? fun (piece, rest) =>
      (matchFrom parts rest).map ((name, sort, piece) :: ·)

/-- The digits of a number in front of a point and behind it. -/
def decimalValue (cs : List Char) : Binary64 :=
  let whole := cs.takeWhile isDigit
  let fraction := (cs.dropWhile isDigit).drop 1
  let digits := IntegerText.ofDigits ((whole ++ fraction).map fun c => c.toNat - 48)
  Binary64.ofDecimal false digits (-(fraction.length : Int))

/-- An identifier as it is always shown: small digits in five groups. -/
def uuidText (cs : List Char) : String :=
  let ds := (cs.filter (· != '-')).map Char.toLower
  String.ofList (ds.take 8 ++ '-' :: (ds.drop 8).take 4 ++ '-' :: (ds.drop 12).take 4 ++
    '-' :: (ds.drop 16).take 4 ++ '-' :: ds.drop 20)

/-- The value of a piece. A whole number with more digits than are read has none. -/
def pieceValue? (sort : ParamSort) (piece : List Char) : Option Datum :=
  match sort with
  | .segment | .anything => some (.str (String.ofList piece))
  | .whole =>
    if IntegerText.maxDigits < piece.length then none
    else some (.int (IntegerText.ofDigits (piece.map fun c => c.toNat - 48)))
  | .decimal => some (.float (decimalValue piece))
  | .uuid => some (.str (uuidText piece))

/-- Whether a path matches the pattern. -/
def covers (p : PathPattern) (path : String) : Bool := (matchFrom p path.toList).isSome

/-- The values of the parameters if the path matches the pattern and all of them have one. -/
def values? (p : PathPattern) (path : String) : Option (List (String × Datum)) :=
  (matchFrom p path.toList).bind fun found =>
    found.mapM fun (name, sort, piece) => (pieceValue? sort piece).map (name, ·)

/-- Whether a path matches the pattern, but with a number that cannot be read. -/
def balksAt (p : PathPattern) (path : String) : Bool := p.covers path && (p.values? path).isNone

end PathPattern

end Gatehouse.Http
