import Gatehouse.Assoc
import Gatehouse.Json.Basic
import Gatehouse.Number.IntegerText
import Gatehouse.Text.Hex

/-!
# JSON values from text

Beyond the standard, the words for numbers that are not finite are read. Of two
members of one name the later value counts and the earlier place. A number with
a point or an exponent is a floating point number. Text may hold no raw control
character. Lists and objects stand inside each other only to a limit, and a text that
goes beyond it is told apart from one that is not JSON.
-/

namespace Gatehouse.Json

/-- What becomes of numbers: they are read as numbers, or kept as texts of their own. -/
inductive NumberReading where
  | asNumber
  | asText
deriving DecidableEq

/-- Why a text is not read. -/
inductive Misread where
  | malformed
  /-- Too many lists and objects stand inside each other; what goes beyond the limit is
  an object, or else a list. -/
  | tooDeep (isObject : Bool)
deriving DecidableEq, Repr

/-- What a text is said to be when it goes too deep. -/
def Misread.message : Misread → String
  | .malformed => "malformed"
  | .tooDeep isObject =>
    "maximum recursion depth exceeded while decoding a JSON " ++
      (if isObject then "object" else "array") ++ " from a unicode string"

/-- What was found, or else that there is no JSON. -/
def expect {α : Type} : Option α → Except Misread α
  | some found => .ok found
  | none => .error .malformed

def isSpace (c : Char) : Bool := c = ' ' || c = '\t' || c = '\n' || c = '\r'

def skipSpace (cs : List Char) : List Char := cs.dropWhile isSpace

/-- The rest of the text behind `word`, if it starts with it. -/
def afterWord? : List Char → List Char → Option (List Char)
  | [], cs => some cs
  | w :: word, c :: cs => if w = c then afterWord? word cs else none
  | _ :: _, [] => none

def isDigit (c : Char) : Bool := '0' ≤ c && c ≤ '9'

def digitsValue (cs : List Char) : Nat := IntegerText.ofDigits (cs.map fun c => c.toNat - 48)

/-- The digits of the whole part: one zero, or digits that start with none. -/
def wholePart? : List Char → Option (List Char × List Char)
  | '0' :: rest => some (['0'], rest)
  | cs =>
    let ds := cs.takeWhile isDigit
    if ds.isEmpty then none else some (ds, cs.dropWhile isDigit)

/-- The digits behind a point, if a point with digits follows. -/
def fractionPart : List Char → List Char × List Char
  | '.' :: rest =>
    let ds := rest.takeWhile isDigit
    if ds.isEmpty then ([], '.' :: rest) else (ds, rest.dropWhile isDigit)
  | cs => ([], cs)

/-- The exponent, if one with digits follows. -/
def exponentPart (cs : List Char) : Option Int × List Char :=
  match cs with
  | e :: rest =>
    if e = 'e' || e = 'E' then
      let (negative, body) := IntegerText.splitSign rest
      let ds := body.takeWhile isDigit
      if ds.isEmpty then (none, cs)
      else
        let n : Int := digitsValue ds
        (some (if negative then -n else n), body.dropWhile isDigit)
    else (none, cs)
  | [] => (none, [])

/-- The parts of a number without its sign. -/
structure Magnitude where
  whole : List Char
  fraction : List Char
  exponent : Option Int

/-- A number without its sign, taken apart. -/
def magnitude? (cs : List Char) : Option (Magnitude × List Char) := do
  let (whole, rest) ← wholePart? cs
  let (fraction, rest) := fractionPart rest
  let (exponent, rest) := exponentPart rest
  some (⟨whole, fraction, exponent⟩, rest)

/-- The number with these parts; whole numbers have a limited number of digits. -/
def Magnitude.value? (m : Magnitude) (negative : Bool) : Option Json :=
  if m.fraction.isEmpty && m.exponent.isNone then
    if IntegerText.maxDigits < m.whole.length then none
    else
      let n : Int := digitsValue m.whole
      some (.int (if negative then -n else n))
  else
    let e := m.exponent.getD 0 - m.fraction.length
    some (.float (Binary64.ofDecimal negative (digitsValue (m.whole ++ m.fraction)) e))

/-- A number, or the word for the number below all others. -/
def number? (numbers : NumberReading) (cs : List Char) : Option (Json × List Char) :=
  match afterWord? "-Infinity".toList cs with
  | some rest => some (.float (.infinite true), rest)
  | none => do
    let (negative, body) :=
      match cs with
      | '-' :: rest => (true, rest)
      | _ => (false, cs)
    let (m, rest) ← magnitude? body
    match numbers with
    | .asText => some (.str (String.ofList (cs.take (cs.length - rest.length))), rest)
    | .asNumber => (m.value? negative).map (·, rest)

/-- The value of four hexadecimal digits. -/
def hexUnit? : List Char → Option (Nat × List Char)
  | a :: b :: c :: d :: rest => do
    let a ← Text.Hex.value? a
    let b ← Text.Hex.value? b
    let c ← Text.Hex.value? c
    let d ← Text.Hex.value? d
    pure (((a * 16 + b) * 16 + c) * 16 + d, rest)
  | _ => none

/-- The second half of a surrogate pair, if one is written next. -/
def lowSurrogate? : List Char → Option (Nat × List Char)
  | '\\' :: 'u' :: rest => do
    let (n, rest) ← hexUnit? rest
    if 0xdc00 ≤ n ∧ n ≤ 0xdfff then some (n, rest) else none
  | _ => none

/-- The code point of an escape, the backslash already read. -/
def escape? : List Char → Option (Nat × List Char)
  | 'u' :: rest => do
    let (high, rest) ← hexUnit? rest
    if 0xd800 ≤ high ∧ high ≤ 0xdbff then
      match lowSurrogate? rest with
      | some (low, rest) => pure (0x10000 + (high - 0xd800) * 0x400 + (low - 0xdc00), rest)
      | none => pure (high, rest)
    else pure (high, rest)
  | c :: rest =>
    if c = '"' || c = '\\' || c = '/' then some (c.toNat, rest)
    else if c = 'n' then some (10, rest)
    else if c = 't' then some (9, rest)
    else if c = 'r' then some (13, rest)
    else if c = 'b' then some (8, rest)
    else if c = 'f' then some (12, rest)
    else none
  | [] => none

/-- The code points of a text up to its closing quote, and what follows it. -/
def textBody? : Nat → List Char → Option (List Nat × List Char)
  | 0, _ => none
  | _, [] => none
  | fuel + 1, c :: rest =>
    if c = '"' then some ([], rest)
    else if c = '\\' then do
      let (d, rest) ← escape? rest
      let (ds, rest) ← textBody? fuel rest
      pure (d :: ds, rest)
    else if c.toNat < 0x20 then none
    else do
      let (ds, rest) ← textBody? fuel rest
      pure (c.toNat :: ds, rest)

/-- The code points of a quoted text, the opening quote already read. -/
def quoted? (cs : List Char) : Option (List Nat × List Char) := textBody? (cs.length + 1) cs

/-- The name of a member and the blanks and colon behind it. -/
def memberName? (cs : List Char) : Option (String × List Char) :=
  match cs with
  | '"' :: rest => do
    let (points, rest) ← quoted? rest
    match skipSpace rest with
    | ':' :: rest => some (textOfPoints points, rest)
    | _ => none
  | _ => none

mutual

/-- A value at the start of a text, and the rest of the text; `nesting` more lists and
objects may stand inside each other. -/
def value (numbers : NumberReading) :
    Nat → Nat → List Char → Except Misread (Json × List Char)
  | 0, _, _ => .error .malformed
  | fuel + 1, nesting, cs =>
    match cs with
    | '"' :: rest => (expect (quoted? rest)).map fun (points, rest) => (ofPoints points, rest)
    | '[' :: rest =>
      match nesting with
      | 0 => .error (.tooDeep false)
      | nesting + 1 =>
        match skipSpace rest with
        | ']' :: rest => .ok (.arr [], rest)
        | rest => (items numbers fuel nesting rest).map fun (vs, rest) => (.arr vs, rest)
    | '{' :: rest =>
      match nesting with
      | 0 => .error (.tooDeep true)
      | nesting + 1 =>
        match skipSpace rest with
        | '}' :: rest => .ok (.obj [], rest)
        | rest => (members numbers fuel nesting [] rest).map fun (ms, rest) => (.obj ms, rest)
    | 'n' :: _ => expect ((afterWord? "null".toList cs).map (Json.null, ·))
    | 't' :: _ => expect ((afterWord? "true".toList cs).map (Json.bool true, ·))
    | 'f' :: _ => expect ((afterWord? "false".toList cs).map (Json.bool false, ·))
    | 'N' :: _ => expect ((afterWord? "NaN".toList cs).map (Json.float .nan, ·))
    | 'I' :: _ => expect ((afterWord? "Infinity".toList cs).map (Json.float (.infinite false), ·))
    | _ => expect (number? numbers cs)

/-- The items of a list that is not empty, and what follows its bracket. -/
def items (numbers : NumberReading) :
    Nat → Nat → List Char → Except Misread (List Json × List Char)
  | 0, _, _ => .error .malformed
  | fuel + 1, nesting, cs => do
    let (v, rest) ← value numbers fuel nesting (skipSpace cs)
    match skipSpace rest with
    | ',' :: rest =>
      let (vs, rest) ← items numbers fuel nesting rest
      pure (v :: vs, rest)
    | ']' :: rest => pure ([v], rest)
    | _ => throw .malformed

/-- The members of an object that is not empty, added to those before them, and
what follows its brace. -/
def members (numbers : NumberReading) :
    Nat → Nat → List (String × Json) → List Char →
      Except Misread (List (String × Json) × List Char)
  | 0, _, _, _ => .error .malformed
  | fuel + 1, nesting, earlier, cs => do
    let (name, rest) ← expect (memberName? (skipSpace cs))
    let (v, rest) ← value numbers fuel nesting (skipSpace rest)
    let ms := Assoc.put name v earlier
    match skipSpace rest with
    | ',' :: rest => members numbers fuel nesting ms rest
    | '}' :: rest => pure (ms, rest)
    | _ => throw .malformed

end

/-- The value that a whole text stands for, with at most `nesting` lists and objects
inside each other. -/
def read (numbers : NumberReading) (nesting : Nat) (cs : List Char) : Except Misread Json := do
  let (v, rest) ← value numbers (2 * cs.length + 2) nesting (skipSpace cs)
  if (skipSpace rest).isEmpty then pure v else throw .malformed

/-- The value that a text from outside stands for, with at most `depth` lists and objects
inside its outermost one. -/
def readOuter (depth : Nat) (cs : List Char) : Except Misread Json :=
  read .asNumber (depth + 1) cs

/-- The value that a text stands for, however deep it goes. -/
def parse? (s : String) : Option Json :=
  let cs := s.toList
  match read .asNumber cs.length cs with
  | .ok v => some v
  | .error _ => none

end Gatehouse.Json
