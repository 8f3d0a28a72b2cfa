import Gatehouse.Coercion.WholeText
import Gatehouse.Text.Utf8
import Gatehouse.Value.Basic

/-!
# What a value is taken for

A record asks for values of a type, and a value of another type is taken if there is no
doubt what it stands for: words for truth values, texts of whole numbers, floating point
numbers without a fraction, bytes for text.
-/

namespace Gatehouse

namespace Coercion

/-- Letters of ASCII in small form. -/
def lowerAscii (s : String) : String := String.ofList (s.toList.map Char.toLower)

def trueWords : List String := ["1", "on", "t", "true", "y", "yes"]

def falseWords : List String := ["0", "off", "f", "false", "n", "no"]

/-- The truth value that a word stands for. -/
def boolOfText (s : String) : Except Refusal Bool :=
  let word := lowerAscii s
  if trueWords.contains word then .ok true
  else if falseWords.contains word then .ok false
  else .error .boolText

/-- Where the whole numbers of 64 bits begin, and the first one above them. -/
def wordStart : Int := -9223372036854775808

def wordEnd : Int := 9223372036854775808

/-- A number as a truth value; one that does not fit into 64 bits is not looked at. -/
def boolOfInt (n : Int) : Except Refusal Bool :=
  if n = 0 then .ok false
  else if n = 1 then .ok true
  else if wordStart ≤ n ∧ n < wordEnd then .error .boolText
  else .error .boolType

/-- A truth value. -/
def toBool : Datum → Except Refusal Bool
  | .bool b => .ok b
  | .int n => boolOfInt n
  | .str s => boolOfText s
  | .bytes bs =>
    match Text.Utf8.text? bs with
    | some s => boolOfText s
    | none => .error .boolText
  | .float x =>
    match x.wholeValue? with
    | some n => if n = wordStart then .error .boolType else boolOfInt n
    | none => .error .boolType
  | _ => .error .boolType

/-- A whole number. -/
def toInt : Datum → Except Refusal Int
  | .int n => .ok n
  | .bool b => .ok (if b then 1 else 0)
  | .str s => intOfText s
  | .bytes bs =>
    match Text.Utf8.text? bs with
    | some s => intOfText s
    | none => .error .intText
  | .float x =>
    if x.isFinite then
      match x.wholeValue? with
      | some n =>
        if wordStart < n ∧ n < wordEnd then .ok n else .error .intTextTooLong
      | none => .error .intFraction
    else .error .notFinite
  | _ => .error .intType

/-- A text. -/
def toText : Datum → Except Refusal String
  | .str s => .ok s
  | .bytes bs =>
    match Text.Utf8.text? bs with
    | some s => .ok s
    | none => .error .textBytes
  | .unpaired _ => .error .textBytes
  | _ => .error .textType

/-- The items of a list, each of which must be a text; every wrong one is reported. -/
def textItems (index : Nat) : List Datum → Except (List (List Place × Refusal)) (List String)
  | [] => .ok []
  | v :: rest =>
    match toText v, textItems (index + 1) rest with
    | .ok s, .ok ss => .ok (s :: ss)
    | .ok _, .error es => .error es
    | .error e, .ok _ => .error [([.item index], e)]
    | .error e, .error es => .error (([.item index], e) :: es)

/-- A list of texts. -/
def toTexts : Datum → Except (List (List Place × Refusal)) (List String)
  | .list items | .tuple items | .set items | .frozenset items => textItems 0 items
  | _ => .error [([], .listType)]

end Coercion

end Gatehouse
