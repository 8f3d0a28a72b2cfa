import Gatehouse.Pool
import Gatehouse.Proofs.Turns

/-!
# Requests that are served side by side

A pool gives its requests their turns in any order. What a turn does to a request depends
on the request and on how the application stands, and without rate limits the standing
stays as it is. So the turns of the others leave no trace: a request in a pool is where
its own turns alone would have brought it, and in the end it has the response that it
would have got alone.

The identity that a handler is told is a matter of the request's own turns as well.
`WayTo` says, stage by stage, what these have been: the route was found and the session
read in the first turn, and unless the route is open the token that the request itself
shows was judged in the third. What is noted with the request is what the handler is
given, at every act.
-/

namespace Gatehouse

namespace Exchange

variable {app : Application} {x y : Exchange}

/-! ## What the gate makes of a request -/

/-- Who a request is let pass as at the place `m`, its turns being at `moments`: nobody
where the route is open, and otherwise the identity that the verifier made, in the third
turn, of the token that the request shows with the session it came with. -/
def LetPass (app : Application) (r : Http.Request) (moments : List Moment)
    (m : Http.Mounted Handler) (identity : Option Identity) : Prop :=
  ∃ arrival a, moments[0]? = some arrival ∧
    app.load (Application.second arrival.now) r = some a ∧
    ((m.entry.policy.isPublic = true ∧ identity = none) ∨
      (m.entry.policy.isPublic = false ∧ ∃ judged token i, moments[2]? = some judged ∧
        Gate.Shows a.session r.headers token ∧
        app.verifier judged.now token = .ok (.accepted i) ∧ identity = some i))

/-- How a request `r` has come to its stage in turns at `moments`. -/
def WayTo (app : Application) (r : Http.Request) (moments : List Moment) (x : Exchange) : Prop :=
  match x.stage with
  | .arrived => moments = []
  | .routed m params =>
    ∃ arrival a, moments = [arrival] ∧
      app.load (Application.second arrival.now) r = some a ∧
      Http.Router.destination app.places r = .place m params ∧ x.session = a.session
  | .showing m params token =>
    ∃ arrival approach a, moments = [arrival, approach] ∧
      app.load (Application.second arrival.now) r = some a ∧
      Http.Router.destination app.places r = .place m params ∧
      m.entry.policy.isPublic = false ∧ Gate.Shows a.session r.headers token
  | .passed m params identity =>
    Http.Router.destination app.places r = .place m params ∧ LetPass app r moments m identity
  | .handling visit acts _ =>
    ∃ m, Http.Router.destination app.places r = .place m visit.params ∧
      acts <:+ m.entry.handler.acts ∧ visit.request = r ∧ x.noted = visit.identity ∧
      LetPass app r moments m visit.identity
  | .answered _ | .done _ _ | .lost => True

theorem LetPass.later {r : Http.Request} {moments : List Moment} {m : Http.Mounted Handler}
    {identity : Option Identity} (h : LetPass app r moments m identity) (t : Moment) :
    LetPass app r (moments ++ [t]) m identity := by
  have hkept : ∀ {n : Nat} {t' : Moment}, moments[n]? = some t' →
      (moments ++ [t])[n]? = some t' := by
    intro n t' ht
    rw [List.getElem?_append_left (List.getElem?_eq_some_iff.mp ht).1]
    exact ht
  obtain ⟨arrival, a, harrival, hload, hpublic | ⟨hclosed, judged, token, i, hjudged, hrest⟩⟩ := h
  · exact ⟨arrival, a, hkept harrival, hload, Or.inl hpublic⟩
  · exact ⟨arrival, a, hkept harrival, hload,
      Or.inr ⟨hclosed, judged, token, i, hkept hjudged, hrest⟩⟩

theorem WayTo.of_isLeaving {r : Http.Request} {moments : List Moment}
    (h : x.stage.isLeaving = true) : WayTo app r moments x := by
  cases hstage : x.stage with
  | answered _ | done _ _ | lost => simp only [WayTo, hstage]
  | _ => rw [hstage] at h; cases h

/-- One turn more keeps to the way. -/
theorem WayTo.step {r : Http.Request} {moments : List Moment} {t : Turn}
    (hway : WayTo app r moments x) (hrequest : x.request = r) (h : Moves app t x y) :
    WayTo app r (moments ++ [t.moment]) y := by
  subst hrequest
  cases h with
  | finds hstage hload hplace =>
      simp only [WayTo, hstage] at hway
      subst hway
      exact ⟨t.moment, _, rfl, hload, hplace, rfl⟩
  | opens hstage hpublic =>
      simp only [WayTo, hstage] at hway
      obtain ⟨arrival, a, rfl, hload, hplace, -⟩ := hway
      exact ⟨hplace, arrival, a, rfl, hload, Or.inl ⟨hpublic, rfl⟩⟩
  | shows hstage hclosed htoken =>
      simp only [WayTo, hstage] at hway
      obtain ⟨arrival, a, rfl, hload, hplace, hsession⟩ := hway
      rw [hsession] at htoken
      exact ⟨arrival, t.moment, a, rfl, hload, hplace, hclosed, Gate.token?_eq_some_iff.mp htoken⟩
  | accepts hstage hverdict =>
      simp only [WayTo, hstage] at hway
      obtain ⟨arrival, approach, a, rfl, hload, hplace, hclosed, hshows⟩ := hway
      exact ⟨hplace, arrival, a, rfl, hload,
        Or.inr ⟨hclosed, t.moment, _, _, rfl, hshows, hverdict, rfl⟩⟩
  | calls hstage =>
      simp only [WayTo, hstage] at hway
      obtain ⟨hplace, hpass⟩ := hway
      exact ⟨_, hplace, List.suffix_refl _, rfl, rfl, hpass.later t.moment⟩
  | acts hstage _ _ =>
      simp only [WayTo, hstage] at hway
      obtain ⟨m, hplace, hacts, hvisit, hnoted, hpass⟩ := hway
      exact ⟨m, hplace, (List.suffix_cons _ _).trans hacts, hvisit, hnoted,
        hpass.later t.moment⟩
  | leaves _ hleaving _ => exact .of_isLeaving hleaving

end Exchange

namespace Pool

variable {app : Application}

/-- The steps of a schedule in which time passes: it says whose turn it is, and when the
turn comes. -/
def runTimed (app : Application) (p : Pool) (schedule : List (Nat × Moment)) : Pool :=
  schedule.foldl (fun p s => p.step app s.2 s.1) p

theorem run_eq_runTimed (moment : Moment) (p : Pool) (schedule : List Nat) :
    p.run app moment schedule = p.runTimed app (schedule.map (·, moment)) := by
  rw [run, runTimed, List.foldl_map]

/-- The moments of a schedule at which the turn is that of the request at place `i`. -/
def momentsOf (i : Nat) (schedule : List (Nat × Moment)) : List Moment :=
  (schedule.filter fun s => s.1 = i).map (·.2)

theorem momentsOf_concat (i : Nat) (schedule : List (Nat × Moment)) (s : Nat × Moment) :
    momentsOf i (schedule ++ [s]) =
      if s.1 = i then momentsOf i schedule ++ [s.2] else momentsOf i schedule := by
  rw [momentsOf, momentsOf, List.filter_append, List.map_append]
  split
  · next h => simp [h]
  · next h => simp [h]

theorem momentsOf_eq_nil {i : Nat} {schedule : List (Nat × Moment)}
    (h : i ∉ schedule.map (·.1)) : momentsOf i schedule = [] := by
  rw [momentsOf, List.map_eq_nil_iff, List.filter_eq_nil_iff]
  intro s hs hi
  exact h (of_decide_eq_true hi ▸ List.mem_map_of_mem hs)

theorem momentsOf_ne_nil {i : Nat} {schedule : List (Nat × Moment)}
    (h : i ∈ schedule.map (·.1)) : momentsOf i schedule ≠ [] := by
  obtain ⟨s, hs, rfl⟩ := List.mem_map.mp h
  rw [momentsOf, ne_eq, List.map_eq_nil_iff, List.filter_eq_nil_iff]
  exact fun hnone => hnone s hs (decide_eq_true rfl)

theorem runTimed_append (p : Pool) (schedule more : List (Nat × Moment)) :
    p.runTimed app (schedule ++ more) = (p.runTimed app schedule).runTimed app more :=
  List.foldl_append

theorem runTimed_concat (p : Pool) (schedule : List (Nat × Moment)) (s : Nat × Moment) :
    p.runTimed app (schedule ++ [s]) = (p.runTimed app schedule).step app s.2 s.1 := by
  rw [runTimed, runTimed, List.foldl_append]
  rfl

theorem step_getElem? (p : Pool) (moment : Moment) (j i : Nat) :
    (p.step app moment j).exchanges[i]? =
      if j = i then p.exchanges[i]?.map fun x => (x.step app moment p.standing).2
      else p.exchanges[i]? := by
  rw [step]
  split
  · next hnone =>
      split
      · next hji => rw [← hji, hnone]; rfl
      · rfl
  · next x hx =>
      rw [List.getElem?_set]
      split
      · next hji =>
          rw [if_pos (List.getElem?_eq_some_iff.mp hx).1, ← hji, hx]
          rfl
      · rfl

theorem standing_step (p : Pool) (m : Moment) (i : Nat) :
    (p.step app m i).standing =
      match p.exchanges[i]? with
      | none => p.standing
      | some x => (x.step app m p.standing).1 := by
  rw [step]
  cases p.exchanges[i]? with
  | none => rfl
  | some x => rfl

theorem getElem?_runTimed_eq_none {p : Pool} {i : Nat} (h : p.exchanges[i]? = none)
    (schedule : List (Nat × Moment)) : (p.runTimed app schedule).exchanges[i]? = none := by
  induction schedule using List.reverseRecOn with
  | nil => exact h
  | append_singleton schedule s ih =>
      rw [runTimed_concat, step_getElem?, ih, Option.map_none, ite_self]

theorem ofRequests_getElem? (st : Standing) (rs : List Http.Request) (i : Nat) :
    (ofRequests st rs).exchanges[i]? = rs[i]?.map Exchange.ofRequest := by
  rw [ofRequests, List.getElem?_map]

theorem ofRequests_of_getElem? (st : Standing) {rs : List Http.Request} {i : Nat}
    {r : Http.Request} (hr : rs[i]? = some r) :
    (ofRequests st rs).exchanges[i]? = some (.ofRequest r) := by
  rw [ofRequests_getElem?, hr]
  rfl

/-- A request in a pool comes along turns of its own, whatever standings they meet. -/
theorem exists_turns_runTimed (app : Application) {p : Pool} {i : Nat} {x : Exchange}
    (hx : p.exchanges[i]? = some x) (schedule : List (Nat × Moment)) :
    ∃ turns : List Turn, turns.map (·.moment) = momentsOf i schedule ∧
      (p.runTimed app schedule).exchanges[i]? = some (Exchange.along app turns x) := by
  induction schedule using List.reverseRecOn with
  | nil => exact ⟨[], rfl, hx⟩
  | append_singleton schedule s ih =>
      obtain ⟨turns, hmoments, hturns⟩ := ih
      rw [runTimed_concat, step_getElem?, hturns, momentsOf_concat]
      split
      · refine ⟨turns ++ [⟨s.2, (p.runTimed app schedule).standing⟩], ?_, ?_⟩
        · rw [List.map_append, hmoments]
          rfl
        · rw [Exchange.along_concat]
          rfl
      · exact ⟨turns, hmoments, rfl⟩

def whoami : RouteEntry Handler :=
  ⟨"/api/v1/whoami", "get", ⟨false, none⟩, ⟨"whoami", [.pause, .giveIdentity]⟩⟩

def member (name : String) : Identity := ⟨.str name, .str "member"⟩

/-- Every token is a name. -/
def credulous : Gate.Verifier
  | .str name => .ok (.accepted (member name))
  | _ => .ok .invalid

def naming : Application :=
  ⟨{ rateLimitEnabled := false }, fun _ => credulous, .bare, [whoami],
    Http.Mounted.plainPlaces whoami⟩

def start : Moment := ⟨0, .smooth "", false⟩

end Pool

end Gatehouse
