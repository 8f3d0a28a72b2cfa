import Gatehouse.Exchange

/-!
# What becomes of one request

A request takes a few steps to its gate and at most one through it. Whatever happens
afterwards, no token is judged and no handler is called any more: every stage behind
the gate leads to another one behind the gate. `advance_settles` is that invariant.

In front of the gate little can happen. A request that finds no route, or whose
session cannot be read, is behind the gate at once, so nothing is run for it. One that
finds a route has its decision made by `Gate.check`, in one step or in two, since the
verifier is asked in a step of its own; what is called is then what the decision
says. The stages in between are computed here one by one, each by the rule for it.
-/

namespace Gatehouse

/-- The calls of a handler that a decision leads to. -/
def Gate.Decision.calls (d : Gate.Decision) (h : Handler) : List (String × Option Identity) :=
  match d.outcome with
  | .ok (.proceed i) => [(h.name, i)]
  | _ => []

/-- Whether a request at this stage has its gate behind it, or will come to none. -/
def Stage.isBehindGate : Stage → Bool
  | .handling _ _ _ | .answered _ | .done _ _ | .lost => true
  | .arrived | .routed _ _ | .showing _ _ _ | .passed _ _ _ => false

namespace Exchange

variable {app : Application} {moment : Moment} {st : Standing} {x y z : Exchange}

/-! ## Behind the gate -/

/-- `y` comes of `x`, is behind the gate, and nothing was called or judged in between. -/
structure Settles (x y : Exchange) : Prop where
  request : y.request = x.request
  calls : y.calls = x.calls
  verified : y.verified = x.verified
  behind : y.stage.isBehindGate = true

theorem Settles.trans (h : x.Settles y) (h' : y.Settles z) : x.Settles z where
  request := h'.request.trans h.request
  calls := h'.calls.trans h.calls
  verified := h'.verified.trans h.verified
  behind := h'.behind

theorem breakOff_settles (x : Exchange) : x.Settles x.breakOff := ⟨rfl, rfl, rfl, rfl⟩

theorem respond_settles (app : Application) (x : Exchange) (r : Http.Response) :
    x.Settles (x.respond app r) :=
  ⟨rfl, rfl, rfl, rfl⟩

theorem respondError_settles (app : Application) (x : Exchange) (e : ApiError) :
    x.Settles (x.respondError app e) :=
  ⟨rfl, rfl, rfl, rfl⟩

theorem respondStatus_settles (app : Application) (x : Exchange) (code : Int) (detail : Datum)
    (headers : List (String × String)) : x.Settles (x.respondStatus app code detail headers) := by
  rw [respondStatus]
  split
  · exact respond_settles app x _
  · exact x.breakOff_settles

theorem respondFault_settles (app : Application) (x : Exchange) (f : Fault) :
    x.Settles (x.respondFault app f) := by
  rw [respondFault]
  split
  · exact respond_settles app x _
  · exact x.breakOff_settles

theorem failAtGate_settles (app : Application) (x : Exchange) (f : Failure) :
    x.Settles (x.failAtGate app f) := by
  cases f with
  | api e => exact respondError_settles app x e
  | status code detail headers => exact respondStatus_settles app x code detail headers
  | limited limit seconds => exact respond_settles app x _
  | fault f => exact respondFault_settles app x f

theorem failInHandler_settles (app : Application) (x : Exchange) (f : Failure) :
    x.Settles (x.failInHandler app f) := by
  cases f with
  | api e => exact respondError_settles app x e
  | status code detail headers => exact respondStatus_settles app x code detail headers
  | limited limit seconds => exact respond_settles app x _
  | fault f => exact ⟨rfl, rfl, rfl, rfl⟩

theorem conclude_settles (app : Application) (x : Exchange) (reply : Reply) :
    x.Settles (x.conclude app reply) := by
  rw [conclude.eq_def]
  split
  · exact respond_settles app x _
  · exact respondError_settles app x _
  · exact respond_settles app x _
  · split
    · exact respond_settles app x _
    · exact x.breakOff_settles

theorem act_settles (x : Exchange) (visit : Visit) (last : Reply) (a : Act) (rest : List Act) :
    x.Settles (x.act app moment st visit last a rest) := by
  simp only [act]
  split
  · exact ⟨rfl, rfl, rfl, rfl⟩
  · next f _ =>
      obtain ⟨hrequest, hcalls, hverified, hbehind⟩ := failInHandler_settles app _ f
      exact ⟨hrequest, hcalls, hverified, hbehind⟩

theorem send_settles (x : Exchange) (now : Int) (r : Http.Response) :
    x.Settles (x.send app now r) := by
  rw [send]
  split
  · exact x.breakOff_settles
  · exact ⟨rfl, rfl, rfl, rfl⟩

theorem stepAddressed_settles (h : x.stage.isBehindGate = true) :
    x.Settles (x.stepAddressed app moment st).2 := by
  rw [stepAddressed]
  split
  · next hstage => rw [hstage] at h; cases h
  · next hstage => rw [hstage] at h; cases h
  · next hstage => rw [hstage] at h; cases h
  · next hstage => rw [hstage] at h; cases h
  · exact conclude_settles app x _
  · exact x.act_settles _ _ _ _
  · exact x.send_settles _ _
  · exact ⟨rfl, rfl, rfl, h⟩
  · exact ⟨rfl, rfl, rfl, h⟩

theorem step_settles_of_stepAddressed (h : x.Settles (x.stepAddressed app moment st).2) :
    x.Settles (x.step app moment st).2 := by
  simp only [step]
  split
  -- without an address the request is lost, which is behind the gate as well
  · exact ⟨h.request, h.calls, h.verified, rfl⟩
  · exact h

theorem step_settles (h : x.stage.isBehindGate = true) :
    x.Settles (x.step app moment st).2 :=
  step_settles_of_stepAddressed (stepAddressed_settles h)

theorem advance_settles (n : Nat) (h : x.stage.isBehindGate = true) :
    x.Settles (advance app moment n st x).2 := by
  induction n generalizing st x with
  | zero => exact ⟨rfl, rfl, rfl, h⟩
  | succ n ih =>
      have hstep : x.Settles (x.step app moment st).2 := step_settles h
      exact hstep.trans (ih hstep.behind)

/-! ## Through the gate -/

/-- `y` comes of `x` by the decision `d` at the gate in front of `m`. -/
structure Heeds (x : Exchange) (m : Http.Mounted Handler) (params : List (String × Datum))
    (d : Gate.Decision) (y : Exchange) : Prop where
  request : y.request = x.request
  calls : y.calls = x.calls
  verified : y.verified = x.verified ++ d.verified
  passed : ∀ i, d.outcome = .ok (.proceed i) → y.stage = .passed m params i
  stopped : (∀ i, d.outcome ≠ .ok (.proceed i)) → y.stage.isBehindGate = true

variable {m : Http.Mounted Handler} {params : List (String × Datum)}

theorem heed_heeds (x : Exchange) (m : Http.Mounted Handler) (params : List (String × Datum))
    (d : Gate.Decision) : x.Heeds m params d (x.heed app m params d) := by
  simp only [heed]
  split
  · next i hd =>
      refine ⟨rfl, rfl, rfl, fun j hj => ?_, fun hstop => absurd hd (hstop i)⟩
      rw [hd] at hj
      injection hj with hj
      injection hj with hj
      rw [hj]
  · next e hd =>
      obtain ⟨hrequest, hcalls, hverified, hbehind⟩ := respondError_settles app _ e
      refine ⟨hrequest, hcalls, hverified, fun i hi => ?_, fun _ => hbehind⟩
      rw [hd] at hi
      cases hi
  · next f hd =>
      obtain ⟨hrequest, hcalls, hverified, hbehind⟩ := failAtGate_settles app _ f
      refine ⟨hrequest, hcalls, hverified, fun i hi => ?_, fun _ => hbehind⟩
      rw [hd] at hi
      cases hi

theorem wasNamed_front (hx : x.stage.isBehindGate = false) (hy : y.stage.isBehindGate = false) :
    wasNamed x y = false := by
  cases hxstage : x.stage <;> cases hystage : y.stage <;>
    simp_all [wasNamed, Stage.isBehindGate]

theorem step_eq_of_not_wasNamed (h : wasNamed x (x.stepAddressed app moment st).2 = false) :
    x.step app moment st = x.stepAddressed app moment st := by
  simp only [step, h, Bool.and_false, Bool.false_eq_true, ↓reduceIte]

theorem step_heeds (app : Application) (moment : Moment) (st : Standing) {d : Gate.Decision}
    (hfront : x.stage.isBehindGate = false)
    (h : x.Heeds m params d (x.stepAddressed app moment st).2) :
    x.Heeds m params d (x.step app moment st).2 := by
  by_cases hproceed : ∃ i, d.outcome = .ok (.proceed i)
  · obtain ⟨i, hi⟩ := hproceed
    rw [step_eq_of_not_wasNamed (wasNamed_front hfront (by rw [h.passed i hi]; rfl))]
    exact h
  · have hstop : ∀ i, d.outcome ≠ .ok (.proceed i) := fun i hi => hproceed ⟨i, hi⟩
    simp only [step]
    split
    · exact ⟨h.request, h.calls, h.verified, fun i hi => absurd hi (hstop i), fun _ => rfl⟩
    · exact h

/-- From its route a request comes to the decision of the gate in one step or in two. -/
theorem advance_heeds (app : Application) (moment : Moment) (st : Standing)
    (hstage : x.stage = .routed m params) :
    ∃ n, n ≤ 2 ∧ x.Heeds m params
      (Gate.check m.entry.policy (app.verifier moment.now) x.request (some x.session))
      (advance app moment n st x).2 := by
  have hfront : x.stage.isBehindGate = false := by rw [hstage]; rfl
  have hstep : x.stepAddressed app moment st = (st, x.approach app m params) := by
    rw [stepAddressed, hstage]
  rw [Gate.check]
  cases happroach : Gate.approach m.entry.policy x.request (some x.session) with
  | decided d =>
      have happroached : (x.stepAddressed app moment st).2 = x.heed app m params d := by
        rw [hstep, approach, happroach]
      refine ⟨1, by omega, step_heeds app moment st hfront ?_⟩
      rw [happroached]
      exact x.heed_heeds m params d
  | showing token session =>
      -- the verifier is asked in the second step; the session was only looked at before
      obtain ⟨looked, rfl⟩ : ∃ looked, session = some looked := by
        rw [Gate.approach] at happroach
        split at happroach
        · cases happroach
        · simp only [Option.map_some] at happroach
          split at happroach
          · cases happroach
          · injection happroach with _ hsession
            exact ⟨_, hsession.symm⟩
      have hshowing : x.step app moment st =
          (st, { x with session := looked, stage := .showing m params token }) := by
        rw [step_eq_of_not_wasNamed] <;> rw [hstep, approach, happroach]
        · rfl
        · simp only [wasNamed, hstage]
      refine ⟨2, by omega, ?_⟩
      simp only [advance, hshowing]
      obtain ⟨hrequest, hcalls, hverified, hpassed, hstopped⟩ :=
        step_heeds app moment st
          (x := { x with session := looked, stage := .showing m params token }) rfl
          (heed_heeds _ m params _)
      exact ⟨hrequest, hcalls, hverified, hpassed, hstopped⟩

theorem step_passed {i : Option Identity} (h : x.stage = .passed m params i) :
    x.step app moment st = (st, x.call m params i) := by
  have hstep : x.stepAddressed app moment st = (st, x.call m params i) := by
    rw [stepAddressed, h]
  rw [step_eq_of_not_wasNamed, hstep]
  rw [hstep]
  simp only [wasNamed, h, call]

/-! ## From the arrival to the route

Without rate limits nothing counts a request, and one that is no question of a browser
goes straight to its route. -/

theorem enter_eq_route (h : Http.Cors.question? x.request = none) :
    x.enter app = x.route app := by
  rw [enter, h]

/-- Where every place is asked about the path, a number that cannot be read ends all. -/
theorem meter_of_uncountable (h : x.isUncountable app = true) (st : Standing) :
    x.meter app moment st = (st, x.breakOff) := by
  rw [meter, if_pos h]

theorem meter_of_stray (hcountable : x.isUncountable app = false)
    (hstray : x.isCounted app = false) (st : Standing) :
    x.meter app moment st = (st, x.enter app) := by
  rw [meter, hcountable, hstray, if_neg Bool.false_ne_true, if_neg Bool.false_ne_true]

theorem isUncountable_of_free (hfree : app.settings.rateLimitEnabled = false) :
    x.isUncountable app = false := by
  rw [isUncountable, hfree, Bool.false_and]

theorem isCounted_of_free (hfree : app.settings.rateLimitEnabled = false) :
    x.isCounted app = false := by
  rw [isCounted, hfree, Bool.false_and]

theorem meter_eq_route (hfree : app.settings.rateLimitEnabled = false)
    (h : Http.Cors.question? x.request = none) :
    x.meter app moment st = (st, x.route app) := by
  rw [meter_of_stray (isUncountable_of_free hfree) (isCounted_of_free hfree), enter_eq_route h]

theorem route_settles (hastray : ∀ m params,
    Http.Router.destination app.places x.request ≠ .place m params) :
    x.Settles (x.route app) := by
  rw [route]
  split
  · exact respond_settles app x _
  · next m params hplace => exact absurd hplace (hastray m params)
  · exact respond_settles app x _
  · exact x.breakOff_settles
  · exact respond_settles app x _

variable {r : Http.Request} {a : Http.SessionCookie.Arrival}

theorem arrive_of_unread (st : Standing)
    (hload : app.load (Application.second moment.now) r = none) :
    (ofRequest r).arrive app moment st = (st, (ofRequest r).breakOff) := by
  rw [arrive, show (ofRequest r).request = r from rfl, hload]

/-- A request whose session has been read. -/
def welcomed (r : Http.Request) (a : Http.SessionCookie.Arrival) : Exchange :=
  { ofRequest r with session := a.session, carried := a.carried }

theorem arrive_of_read (st : Standing)
    (hload : app.load (Application.second moment.now) r = some a) :
    (ofRequest r).arrive app moment st = (welcomed r a).meter app moment st := by
  rw [arrive, show (ofRequest r).request = r from rfl, hload]
  rfl

theorem step_settles_of_load_none (st : Standing)
    (hload : app.load (Application.second moment.now) r = none) :
    (ofRequest r).Settles ((ofRequest r).step app moment st).2 := by
  refine step_settles_of_stepAddressed ?_
  show (ofRequest r).Settles ((ofRequest r).arrive app moment st).2
  rw [arrive_of_unread st hload]
  exact breakOff_settles _

theorem step_settles_of_astray (st : Standing)
    (hfree : app.settings.rateLimitEnabled = false) (hquestion : Http.Cors.question? r = none)
    (hload : app.load (Application.second moment.now) r = some a)
    (hastray : ∀ m params, Http.Router.destination app.places r ≠ .place m params) :
    (ofRequest r).Settles ((ofRequest r).step app moment st).2 := by
  refine step_settles_of_stepAddressed ?_
  show (ofRequest r).Settles ((ofRequest r).arrive app moment st).2
  rw [arrive_of_read st hload, meter_eq_route hfree hquestion]
  obtain ⟨hrequest, hcalls, hverified, hbehind⟩ := route_settles (x := welcomed r a) hastray
  exact ⟨hrequest, hcalls, hverified, hbehind⟩

/-- A request as it comes to its route. -/
def atRoute (r : Http.Request) (a : Http.SessionCookie.Arrival) (m : Http.Mounted Handler)
    (params : List (String × Datum)) : Exchange :=
  { ofRequest r with session := a.session, carried := a.carried, stage := .routed m params }

theorem step_routed (st : Standing) (hfree : app.settings.rateLimitEnabled = false)
    (hquestion : Http.Cors.question? r = none)
    (hload : app.load (Application.second moment.now) r = some a)
    (hplace : Http.Router.destination app.places r = .place m params) :
    (ofRequest r).step app moment st = (st, atRoute r a m params) := by
  have hstep : (ofRequest r).stepAddressed app moment st = (st, atRoute r a m params) := by
    show (ofRequest r).arrive app moment st = (st, atRoute r a m params)
    rw [arrive_of_read st hload, meter_eq_route hfree hquestion, route,
      show (welcomed r a).request = r from rfl, hplace]
    rfl
  rw [step_eq_of_not_wasNamed (wasNamed_front rfl (by rw [hstep]; rfl)), hstep]

/-! ## From the arrival to the end -/

/-- A request after so many steps. -/
def after (app : Application) (moment : Moment) (st : Standing) (r : Http.Request) (n : Nat) :
    Exchange :=
  (advance app moment n st (ofRequest r)).2

/-- The endpoint of `e` runs, and no other: the request is routed to `e`, the gate
decides by the policy of `e`, the verifier is asked what that decision asks, and the
handler of `e` is called just if the decision lets it, for the identity that was let
pass. -/
structure RunsEndpoint (app : Application) (moment : Moment) (st : Standing)
    (r : Http.Request) (session : Session) (e : RouteEntry Handler) : Prop where
  routed : ∃ m params, m.entry = e ∧ (after app moment st r 1).stage = .routed m params
  verified : (serve app moment st r).2.verified =
    (Gate.check e.policy (app.verifier moment.now) r (some session)).verified
  calls : (serve app moment st r).2.calls =
    (Gate.check e.policy (app.verifier moment.now) r (some session)).calls e.handler
  handed : ∀ i, (Gate.check e.policy (app.verifier moment.now) r (some session)).outcome =
      .ok (.proceed i) →
    ∃ n params, n ≤ enough app ∧ (after app moment st r n).stage =
      .handling ⟨r, params, i⟩ e.handler.acts (.value .none)

/-- A request runs one endpoint only. -/
theorem RunsEndpoint.eq {session session' : Session} {e e' : RouteEntry Handler}
    (h : RunsEndpoint app moment st r session e) (h' : RunsEndpoint app moment st r session' e') :
    e = e' := by
  obtain ⟨m, params, rfl, hstage⟩ := h.routed
  obtain ⟨m', params', rfl, hstage'⟩ := h'.routed
  rw [hstage] at hstage'
  injection hstage' with hm
  rw [hm]

theorem advance_add (k n : Nat) (st : Standing) (x : Exchange) :
    advance app moment (k + n) st x =
      advance app moment n (advance app moment k st x).1 (advance app moment k st x).2 := by
  induction k generalizing st x with
  | zero => rw [Nat.zero_add]; rfl
  | succ k ih =>
      rw [Nat.add_right_comm]
      exact ih _ _

theorem serve_eq_after :
    (serve app moment st r).2 = after app moment st r (longestHandler app.places + 6) := by
  rw [serve, after, enough]

theorem after_settles {n k : Nat} (hbehind : (after app moment st r n).stage.isBehindGate = true)
    (hle : n ≤ k) : (after app moment st r n).Settles (after app moment st r k) := by
  obtain ⟨j, rfl⟩ := Nat.exists_eq_add_of_le hle
  rw [after, after, advance_add]
  exact advance_settles j hbehind

theorem after_heeds (hrouted : ∀ st, (ofRequest r).step app moment st =
      (st, atRoute r a m params)) (st : Standing) :
    ∃ n, n ≤ 3 ∧ (atRoute r a m params).Heeds m params
      (Gate.check m.entry.policy (app.verifier moment.now) r (some a.session))
      (after app moment st r n) := by
  obtain ⟨n, hn, hheeds⟩ :=
    advance_heeds app moment st (rfl : (atRoute r a m params).stage = .routed m params)
  refine ⟨1 + n, by omega, ?_⟩
  have hfirst : advance app moment 1 st (ofRequest r) = (st, atRoute r a m params) := hrouted st
  rw [after, advance_add, hfirst]
  exact hheeds

/-- A request that is routed has its endpoint run. -/
theorem runsEndpoint_of_place (st : Standing) (hfree : app.settings.rateLimitEnabled = false)
    (hquestion : Http.Cors.question? r = none)
    (hload : app.load (Application.second moment.now) r = some a)
    (hplace : Http.Router.destination app.places r = .place m params) :
    RunsEndpoint app moment st r a.session m.entry := by
  have hstep : ∀ st, (ofRequest r).step app moment st = (st, atRoute r a m params) :=
    fun st => step_routed st hfree hquestion hload hplace
  have hrouted : (after app moment st r 1).stage = .routed m params :=
    congrArg (fun p => p.2.stage) (hstep st)
  obtain ⟨n, hn, hrequest, hcalls, hverified, hpassed, hstopped⟩ := after_heeds hstep st
  by_cases hproceed : ∃ i, (Gate.check m.entry.policy (app.verifier moment.now) r
      (some a.session)).outcome = .ok (.proceed i)
  · obtain ⟨i, hi⟩ := hproceed
    -- one step more calls the handler
    have hcall : after app moment st r (n + 1) =
        (after app moment st r n).call m params i := by
      rw [after, advance_add]
      exact congrArg Prod.snd (step_passed (hpassed i hi))
    have hsettles := after_settles (n := n + 1) (k := longestHandler app.places + 6)
      (by rw [hcall]; rfl) (by omega)
    rw [← serve_eq_after, hcall] at hsettles
    refine ⟨⟨m, params, rfl, hrouted⟩, hsettles.verified.trans hverified, ?_, ?_⟩
    · rw [hsettles.calls, Gate.Decision.calls, hi]
      exact congrArg (· ++ [(m.entry.handler.name, i)]) hcalls
    · intro j hj
      rw [hi] at hj
      injection hj with hj
      injection hj with hj
      subst hj
      refine ⟨n + 1, params, by rw [enough]; omega, ?_⟩
      rw [hcall, call, hrequest]
      rfl
  · have hstop : ∀ i, (Gate.check m.entry.policy (app.verifier moment.now) r
        (some a.session)).outcome ≠ .ok (.proceed i) := fun i hi => hproceed ⟨i, hi⟩
    have hsettles := after_settles (k := longestHandler app.places + 6) (hstopped hstop)
      (by omega)
    rw [← serve_eq_after] at hsettles
    refine ⟨⟨m, params, rfl, hrouted⟩, hsettles.verified.trans hverified, ?_, ?_⟩
    · rw [hsettles.calls, hcalls, Gate.Decision.calls]
      split
      · next i hi => exact absurd hi (hstop i)
      · rfl
    · intro i hi
      exact absurd hi (hstop i)

end Exchange

end Gatehouse
