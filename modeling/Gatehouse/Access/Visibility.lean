import Gatehouse.Text.Case

/-!
# Who may see a route without a token

A node of the route tree is open to everyone, to nobody without a token, or to
everyone for some verbs. Verbs are kept in small letters.
-/

namespace Gatehouse

inductive Visibility where
  | everyone
  | identified
  | everyoneFor (verbs : List String)
deriving DecidableEq, Repr, Inhabited

namespace Visibility

/-- Whether a request with `verb` needs no token. -/
def isOpen (v : Visibility) (verb : String) : Bool :=
  match v with
  | .everyone => true
  | .identified => false
  | .everyoneFor verbs => verbs.contains verb

/-- The open verbs in the order of the alphabet, if the rule names verbs. -/
def sortedVerbs? : Visibility → Option (List String)
  | .everyoneFor verbs => some (verbs.mergeSort (fun a b => decide (a ≤ b)))
  | _ => none

end Visibility

end Gatehouse
