import Gatehouse.Exchange

/-!
# Requests that are served together

Several requests may be on their way at once. A schedule says whose turn it is: it is a
list of places in the pool, and each turn is one step of the request at that place.
-/

namespace Gatehouse

/-- Requests on their way through one application. -/
structure Pool where
  standing : Standing
  exchanges : List Exchange

namespace Pool

def ofRequests (st : Standing) (rs : List Http.Request) : Pool := ⟨st, rs.map Exchange.ofRequest⟩

/-- The step of the request at a place; there may be none. -/
def step (app : Application) (moment : Moment) (p : Pool) (i : Nat) : Pool :=
  match p.exchanges[i]? with
  | none => p
  | some x =>
    let (standing, x) := x.step app moment p.standing
    ⟨standing, p.exchanges.set i x⟩

/-- The steps of a schedule. -/
def run (app : Application) (moment : Moment) (p : Pool) (schedule : List Nat) : Pool :=
  schedule.foldl (step app moment) p

/-- Every request takes its turn, so many times. -/
def inTurns (count : Nat) : Nat → List Nat
  | 0 => []
  | rounds + 1 => List.range count ++ inTurns count rounds

/-- Requests served in turns until all are done. -/
def serve (app : Application) (moment : Moment) (st : Standing) (rs : List Http.Request) :
    Pool :=
  (ofRequests st rs).run app moment (inTurns rs.length (Exchange.enough app))

end Pool

end Gatehouse
