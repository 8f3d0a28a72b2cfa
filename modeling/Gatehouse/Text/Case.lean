import Gatehouse.Text.CaseTable

/-!
# Small and capital letters

Verbs are compared in small letters and shown in capitals, and a verb may be any
text, so the whole character set has to be mapped. Two letters need more than a
look in the table: a few capitals are longer than their small letter, and a
capital sigma at the end of a word becomes `ς` instead of `σ`.
-/

namespace Gatehouse.Text

/-- Where the run takes the code point `n`, if it lies on the run. -/
def CaseRun.target? (r : CaseRun) (n : Nat) : Option Nat :=
  if r.first ≤ n ∧ n ≤ r.last ∧ (n - r.first) % r.stride = 0 then
    some ((n : Int) + r.distance).toNat
  else none

/-- The code point reached from `n` by the first run that holds it, or `n`. -/
def mapRuns (runs : List CaseRun) (n : Nat) : Nat :=
  (runs.findSome? (·.target? n)).getD n

def inRanges (ranges : List (Nat × Nat)) (n : Nat) : Bool :=
  ranges.any fun r => r.1 ≤ n && n ≤ r.2

def isCased (c : Char) : Bool := inRanges casedRanges c.toNat

def isCaseIgnorable (c : Char) : Bool := inRanges caseIgnorableRanges c.toNat

/-- The capital form of one character. -/
def upperChar (c : Char) : List Char :=
  if c.toNat < 0x80 then [c.toUpper]
  else match upperExpansions.lookup c.toNat with
    | some cs => cs.map Char.ofNat
    | none => [Char.ofNat (mapRuns upperRuns c.toNat)]

/-- The small form of one character, sigma apart. -/
def lowerChar (c : Char) : List Char :=
  if c.toNat < 0x80 then [c.toLower]
  else if c.toNat = 0x130 then ['i', Char.ofNat 0x307]
  else [Char.ofNat (mapRuns lowerRuns c.toNat)]

/-- Whether the next character that the sigma rule does not skip is a letter with case. -/
def casedFollows : List Char → Bool
  | [] => false
  | c :: rest => if isCaseIgnorable c then casedFollows rest else isCased c

/-- Small letters for the rest of a text; `afterCased` tells whether the nearest
earlier character that the sigma rule does not skip is a letter with case. -/
def lowerFrom (afterCased : Bool) : List Char → List Char
  | [] => []
  | c :: rest =>
    let small :=
      if c.toNat = 0x3a3 then
        [Char.ofNat (if afterCased && !casedFollows rest then 0x3c2 else 0x3c3)]
      else lowerChar c
    small ++ lowerFrom (if isCaseIgnorable c then afterCased else isCased c) rest

/-- The text in small letters. -/
def lower (s : String) : String := String.ofList (lowerFrom false s.toList)

/-- The text in capitals. -/
def upper (s : String) : String := String.ofList (s.toList.flatMap upperChar)

end Gatehouse.Text
