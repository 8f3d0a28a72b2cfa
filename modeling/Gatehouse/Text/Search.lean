/-!
# Texts within texts
-/

namespace Gatehouse.Text

/-- Whether `word` stands somewhere in `cs`. -/
def occursIn (word : List Char) : List Char → Bool
  | [] => word.isEmpty
  | c :: cs => word.isPrefixOf (c :: cs) || occursIn word cs

/-- Whether a text starts with `word`. -/
def startsWith (word s : String) : Bool := word.toList.isPrefixOf s.toList

/-- Whether a text ends with `word`. -/
def endsWith (word s : String) : Bool := word.toList.isSuffixOf s.toList

/-- What stands between the marks of a text; one piece more than there are marks. -/
def pieces (mark : Char) : List Char → List (List Char)
  | [] => [[]]
  | c :: rest =>
    if c = mark then [] :: pieces mark rest
    else match pieces mark rest with
      | [] => [[c]]
      | piece :: more => (c :: piece) :: more

/-- Marks in front of a text are dropped up to the first other character. -/
theorem dropWhile_marks {mark : Char} {lead cs : List Char} (hlead : ∀ c ∈ lead, c = mark)
    (hhead : cs.head? ≠ some mark) : (lead ++ cs).dropWhile (· == mark) = cs := by
  rw [List.dropWhile_append_of_pos fun c hc => beq_iff_eq.mpr (hlead c hc)]
  cases cs with
  | nil => rfl
  | cons c cs =>
      refine List.dropWhile_cons_of_neg fun hc => hhead ?_
      rw [List.head?_cons, beq_iff_eq.mp hc]

end Gatehouse.Text
