/-!
# One operation after another

What can be asked for operations in any order changes with each of them, and each leaves an event
behind. A life is the sequence of these events, the last first, so that what was done most
recently is what a search through it meets first.
-/

namespace Gatehouse

variable {σ ω ε : Type} {perform : σ → ω → ε × σ} {fresh s : σ} {past : List ε}

/-- `Lived perform fresh past s`: the events `past`, the last first, have brought `fresh` to
`s`. -/
inductive Lived (perform : σ → ω → ε × σ) (fresh : σ) : List ε → σ → Prop
  | fresh : Lived perform fresh [] fresh
  | next {past : List ε} {s : σ} (h : Lived perform fresh past s) (operation : ω) :
      Lived perform fresh ((perform s operation).1 :: past) (perform s operation).2

/-- What an operation keeps, a life keeps. -/
theorem Lived.keeps {P : List ε → σ → Prop} (h : Lived perform fresh past s) (hfresh : P [] fresh)
    (hnext : ∀ {past s} operation, P past s →
      P ((perform s operation).1 :: past) (perform s operation).2) : P past s := by
  induction h with
  | fresh => exact hfresh
  | next _ operation ih => exact hnext operation ih

/-- What becomes of `fresh` if it is asked for one operation after another, the last of them
first. -/
def live (perform : σ → ω → ε × σ) (fresh : σ) : List ω → List ε × σ
  | [] => ([], fresh)
  | operation :: operations =>
    let (past, s) := live perform fresh operations
    let (e, s) := perform s operation
    (e :: past, s)

/-- There is a life for all that can be asked for. -/
theorem lived_live (perform : σ → ω → ε × σ) (fresh : σ) (operations : List ω) :
    Lived perform fresh (live perform fresh operations).1 (live perform fresh operations).2 := by
  induction operations with
  | nil => exact .fresh
  | cons operation operations ih => exact ih.next operation

end Gatehouse
