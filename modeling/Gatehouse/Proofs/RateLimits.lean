import Gatehouse.Proofs.Interleaving
import Gatehouse.Proofs.RequestWindows
import Gatehouse.Proofs.Rounds

/-!
# One limit for every client and path

Requests are counted when they arrive, and in no other turn. So what is kept of a client and
a path at any point of a schedule is the window of the requests that have arrived so far for
this client and path, and nothing that is done for any other request matters: `windows_eq`.

A request that is turned away was answered in its first turn. No guard, verifier or handler
has seen it, and what it is answered says nothing of its session.
-/

namespace Gatehouse

open Http

/-- All requests are limited, by one limit. -/
structure Application.LimitedTo (app : Application) (l : RateLimit.Limit) : Prop where
  enabled : app.settings.rateLimitEnabled = true
  parses : RateLimit.parse? app.settings.rateLimit = some [l]

/-- Whether requests of this kind are counted: one must be for a route, and no place may find a
number in its path that cannot be read. -/
def Application.meters (app : Application) (r : Request) : Bool :=
  !Router.balksAt app.places r.path && Router.answers app.places r.method r.path

/-- Whether a request is counted when it arrives: its session must not break it before. -/
def Application.counts (app : Application) (m : Moment) (r : Request) : Bool :=
  app.meters r &&
    (app.load (Application.second m.now) r).isSome

theorem Application.meters_iff {app : Application} {r : Request} :
    app.meters r = true ↔ Router.balksAt app.places r.path = false ∧
      Router.answers app.places r.method r.path = true := by
  rw [meters, Bool.and_eq_true, Bool.not_eq_true']

variable {app : Application} {l : RateLimit.Limit} {m : Moment} {st : Standing} {r : Request}

/-! ## The first turn -/

namespace Exchange

/-- A request once it is counted. -/
def heedTally (app : Application) (x : Exchange) : RateLimit.Tally → Exchange
  | .within => x.enter app
  | .exceeded => { x with stage := .answered RateLimit.refusal }
  | .broken => x.breakOff

/-- What counting a request comes to under a standing. -/
def hitOn (l : RateLimit.Limit) (m : Moment) (st : Standing) (r : Request) :
    RateLimit.Tally × RateLimit.Windows :=
  RateLimit.hit m.fine m.now (RateLimit.windowKey (RateLimit.clientOf r) r.path l) l st.windows

theorem meter_of_limited (hlimited : app.LimitedTo l) {x : Exchange}
    (hmeters : app.meters x.request = true) :
    x.meter app m st = ({ st with windows := (hitOn l m st x.request).2 },
      x.heedTally app (hitOn l m st x.request).1) := by
  obtain ⟨hreadable, hroute⟩ := Application.meters_iff.mp hmeters
  have hcountable : x.isUncountable app = false := by
    rw [isUncountable, hreadable, Bool.and_false]
  have hcounted : x.isCounted app = true := by
    rw [isCounted, hlimited.enabled, hroute]
    rfl
  rw [meter, hcountable, if_neg Bool.false_ne_true, hcounted, if_pos rfl, hlimited.parses]
  simp only [RateLimit.hitAll, hitOn]
  cases RateLimit.hit m.fine m.now
      (RateLimit.windowKey (RateLimit.clientOf x.request) x.request.path l) l st.windows with
  | mk tally windows => cases tally <;> rfl

/-- A request that is not counted breaks off or goes on to its route. -/
theorem meter_of_unmetered {x : Exchange} (hmeters : app.meters x.request = false) (m : Moment)
    (st : Standing) :
    x.meter app m st = (st, x.breakOff) ∨ x.meter app m st = (st, x.enter app) := by
  cases hcountable : x.isUncountable app with
  | true => exact Or.inl (meter_of_uncountable hcountable st)
  | false =>
      refine Or.inr (meter_of_stray hcountable ?_ st)
      cases hlimited : app.settings.rateLimitEnabled with
      | false => exact isCounted_of_free hlimited
      | true =>
          rw [isUncountable, hlimited, Bool.true_and] at hcountable
          rw [Application.meters, hcountable, Bool.not_false, Bool.true_and] at hmeters
          rw [isCounted, hmeters, Bool.and_false]

/-- Only a request that is counted changes what is kept. -/
theorem step_standing_of_limited (hlimited : app.LimitedTo l) (m : Moment) (st : Standing)
    (r : Request) :
    ((ofRequest r).step app m st).1 =
      if app.counts m r then { st with windows := (hitOn l m st r).2 } else st := by
  rw [step_fst, show stepAddressed app m st (ofRequest r) = arrive app m st (ofRequest r) from rfl,
    Application.counts]
  cases hload : app.load (Application.second m.now) r with
  | none =>
      rw [arrive_of_unread st hload, Option.isSome_none, Bool.and_false]
      rfl
  | some a =>
      rw [arrive_of_read st hload]
      cases hmeters : app.meters r with
      | true => exact congrArg Prod.fst (meter_of_limited (x := welcomed r a) hlimited hmeters)
      | false =>
          rcases meter_of_unmetered (x := welcomed r a) hmeters m st with
            hmeter | hmeter
          · exact congrArg Prod.fst hmeter
          · exact congrArg Prod.fst hmeter

theorem refusal_ne_answer (origins : List String) (r : Request) (origin method : String) :
    Cors.answer origins r origin method ≠ RateLimit.refusal := by
  intro h
  have hstatus := congrArg Response.status h
  rw [Cors.answer] at hstatus
  split at hstatus
  · cases hstatus
  · cases hstatus

/-- Nothing but the limit is answered with a refusal. -/
theorem enter_not_refused (x : Exchange) :
    (x.enter app).stage ≠ .answered RateLimit.refusal := by
  have hdecorated : ∀ response : Response, response.status ≠ 429 →
      Stage.answered (Cors.decorate app.settings.corsOrigins x.request response) ≠
        .answered RateLimit.refusal := by
    intro response hstatus h
    injection h with h
    exact hstatus (congrArg Response.status h)
  rw [enter]
  split
  · next origin method _ =>
      intro h
      injection h with h
      exact refusal_ne_answer _ _ _ _ h
  · rw [route]
    split
    · refine hdecorated _ ?_
      rw [app.framework.pages.status_eq]
      decide
    · intro h
      cases h
    · exact hdecorated _ (by decide : (307 : Int) ≠ 429)
    · intro h
      cases h
    · exact hdecorated _ (by decide : (404 : Int) ≠ 429)

theorem wasNamed_of_answered {x y : Exchange} {response : Response}
    (h : y.stage = .answered response) : wasNamed x y = true := by
  simp only [wasNamed, h]
  split
  · rfl
  · rfl
  · rfl
  · next hother _ => exact (hother response rfl).elim

theorem hasAddress_of_step_answered {x : Exchange} {response : Response}
    (h : (x.step app m st).2.stage = .answered response) : x.request.hasAddress = true := by
  cases haddress : x.request.hasAddress with
  | true => rfl
  | false =>
      simp only [step, haddress, Bool.not_false, Bool.true_and] at h
      split at h
      · cases h
      · next hunnamed => exact absurd (wasNamed_of_answered h) hunnamed

theorem breakOff_not_refused (x : Exchange) :
    x.breakOff.stage ≠ .answered RateLimit.refusal := nofun

theorem heedTally_refused_iff {x : Exchange} {tally : RateLimit.Tally} :
    (x.heedTally app tally).stage = .answered RateLimit.refusal ↔ tally = .exceeded := by
  cases tally with
  | within => exact ⟨fun h => absurd h x.enter_not_refused, nofun⟩
  | exceeded => exact ⟨fun _ => rfl, fun _ => rfl⟩
  | broken => exact ⟨fun h => absurd h x.breakOff_not_refused, nofun⟩

theorem arrive_of_limited (hlimited : app.LimitedTo l) (hmeters : app.meters r = true)
    {a : SessionCookie.Arrival}
    (hload : app.load (Application.second m.now) r = some a) :
    (ofRequest r).arrive app m st = ({ st with windows := (hitOn l m st r).2 },
      (welcomed r a).heedTally app (hitOn l m st r).1) := by
  rw [arrive_of_read st hload]
  exact meter_of_limited (x := welcomed r a) hlimited hmeters

theorem step_refused_iff (hlimited : app.LimitedTo l) (hmeters : app.meters r = true) :
    ((ofRequest r).step app m st).2.stage = .answered RateLimit.refusal ↔
      r.hasAddress = true ∧
        (app.load (Application.second m.now) r).isSome = true ∧
        (hitOn l m st r).1 = .exceeded := by
  have hstep : r.hasAddress = true →
      (ofRequest r).step app m st = (ofRequest r).arrive app m st :=
    fun haddress => step_of_hasAddress (x := ofRequest r) haddress m st
  have hiff : r.hasAddress = true →
      (((ofRequest r).step app m st).2.stage = .answered RateLimit.refusal ↔
        (app.load (Application.second m.now) r).isSome = true ∧
          (hitOn l m st r).1 = .exceeded) := by
    intro haddress
    rw [hstep haddress]
    cases hload : app.load (Application.second m.now) r with
    | none =>
        rw [arrive_of_unread st hload]
        exact ⟨fun h => absurd h (breakOff_not_refused _), fun h => absurd h.1 Bool.false_ne_true⟩
    | some a =>
        rw [arrive_of_limited hlimited hmeters hload, heedTally_refused_iff]
        exact ⟨fun h => ⟨rfl, h⟩, fun h => h.2⟩
  constructor
  · intro h
    have haddress : r.hasAddress = true := hasAddress_of_step_answered (x := ofRequest r) h
    exact ⟨haddress, (hiff haddress).mp h⟩
  · rintro ⟨haddress, hcounted⟩
    exact (hiff haddress).mpr hcounted

theorem step_of_refused (hlimited : app.LimitedTo l) (hmeters : app.meters r = true)
    (h : ((ofRequest r).step app m st).2.stage = .answered RateLimit.refusal) :
    ∃ a, app.load (Application.second m.now) r = some a ∧
      ((ofRequest r).step app m st).2 =
        { welcomed r a with stage := .answered RateLimit.refusal } := by
  obtain ⟨haddress, hload, htally⟩ := (step_refused_iff hlimited hmeters).mp h
  obtain ⟨a, hload⟩ := Option.isSome_iff_exists.mp hload
  refine ⟨a, hload, ?_⟩
  have hstep : (ofRequest r).step app m st = (ofRequest r).arrive app m st :=
    step_of_hasAddress (x := ofRequest r) haddress m st
  rw [hstep, arrive_of_limited hlimited hmeters hload, htally]
  rfl

theorem not_refused_of_unmetered (hmeters : app.meters r = false) (m : Moment) (st : Standing) :
    ((ofRequest r).step app m st).2.stage ≠ .answered RateLimit.refusal := by
  intro hstage
  have haddress : r.hasAddress = true := hasAddress_of_step_answered (x := ofRequest r) hstage
  have hstep : (ofRequest r).step app m st = (ofRequest r).arrive app m st :=
    step_of_hasAddress (x := ofRequest r) haddress m st
  rw [hstep] at hstage
  cases hload : app.load (Application.second m.now) r with
  | none =>
      rw [arrive_of_unread _ hload] at hstage
      exact breakOff_not_refused _ hstage
  | some a =>
      rw [arrive_of_read _ hload] at hstage
      rcases meter_of_unmetered (x := welcomed r a) hmeters m st with
        hmeter | hmeter
      · rw [hmeter] at hstage
        exact breakOff_not_refused _ hstage
      · rw [hmeter] at hstage
        exact enter_not_refused _ hstage

/-- What turns a request away is sent in the next turn, and says nothing of the session. -/
theorem along_of_refused {a : SessionCookie.Arrival} {now : Int} (haddress : r.hasAddress = true)
    (hload : app.load now r = some a) (t : Turn)
    (more : List Turn) :
    (along app (t :: more) { welcomed r a with stage := .answered RateLimit.refusal }).stage =
      .done RateLimit.refusal false := by
  obtain ⟨entries, hentries⟩ := SessionCookie.load_eq_ofEntries hload
  have hsession : ({ welcomed r a with stage := .answered RateLimit.refusal } : Exchange).session =
      .ofEntries entries := hentries
  rw [along_of_answered (x := { welcomed r a with stage := .answered RateLimit.refusal })
    haddress rfl, send, hsession, SessionCookie.save_ofEntries]

end Exchange

/-! ## Histories -/

namespace Pool

variable {rs : List Request} {kind : Request → Bool} {client path : String}
  {schedule : List (Nat × Moment)} {i : Nat}

/-- The turns of a schedule in which requests arrive: of each request the first one. -/
def arrivals (schedule : List (Nat × Moment)) : List (Nat × Moment) :=
  schedule.foldl (fun arrived s => if s.1 ∈ arrived.map (·.1) then arrived else arrived ++ [s]) []

theorem mem_arrivals : i ∈ (arrivals schedule).map (·.1) ↔ i ∈ schedule.map (·.1) := by
  induction schedule using List.reverseRecOn with
  | nil => rfl
  | append_singleton schedule s ih =>
      have hmem : i ∈ (schedule ++ [s]).map (·.1) ↔ i ∈ schedule.map (·.1) ∨ i = s.1 := by
        rw [List.map_append, List.mem_append, List.map_singleton, List.mem_singleton]
      rw [arrivals, List.foldl_append, List.foldl_cons, List.foldl_nil, ← arrivals, hmem, ← ih]
      split
      · next hold =>
          refine ⟨Or.inl, fun h => h.elim id ?_⟩
          rintro rfl
          exact hold
      · rw [List.map_append, List.mem_append, List.map_singleton, List.mem_singleton]

theorem arrivals_concat (schedule : List (Nat × Moment)) (s : Nat × Moment) :
    arrivals (schedule ++ [s]) =
      if s.1 ∈ schedule.map (·.1) then arrivals schedule else arrivals schedule ++ [s] := by
  rw [arrivals, List.foldl_append, List.foldl_cons, List.foldl_nil, ← arrivals]
  simp only [mem_arrivals]

theorem arrivals_grow (schedule more : List (Nat × Moment)) :
    arrivals schedule <+: arrivals (schedule ++ more) := by
  induction more using List.reverseRecOn with
  | nil => rw [List.append_nil]
  | append_singleton more s ih =>
      rw [← List.append_assoc, arrivals_concat]
      split
      · exact ih
      · exact ih.trans (List.prefix_append _ _)

theorem arrivals_sublist (schedule : List (Nat × Moment)) :
    (arrivals schedule).Sublist schedule := by
  induction schedule using List.reverseRecOn with
  | nil => exact List.Sublist.slnil
  | append_singleton schedule s ih =>
      rw [arrivals_concat]
      split
      · exact ih.trans (List.sublist_append_left _ _)
      · exact ih.append (List.Sublist.refl _)

/-- Whether an arrival is that of a request of some kind, and counted. -/
def countsAs (app : Application) (rs : List Request) (kind : Request → Bool)
    (s : Nat × Moment) : Bool :=
  (rs[s.1]?).any fun r => kind r && app.counts s.2 r

theorem countsAs_of_none (hr : rs[i]? = none) : countsAs app rs kind (i, m) = false := by
  rw [countsAs, hr]
  rfl

theorem countsAs_iff (hr : rs[i]? = some r) :
    countsAs app rs kind (i, m) = true ↔ kind r = true ∧ app.counts m r = true := by
  rw [countsAs, hr, Option.any_some, Bool.and_eq_true]

/-- The moments at which requests of some kind were counted. -/
def counted (app : Application) (rs : List Request) (kind : Request → Bool)
    (schedule : List (Nat × Moment)) : List Moment :=
  ((arrivals schedule).filter (countsAs app rs kind)).map (·.2)

theorem counted_concat (app : Application) (rs : List Request) (kind : Request → Bool)
    (schedule : List (Nat × Moment)) (s : Nat × Moment) :
    counted app rs kind (schedule ++ [s]) =
      if s.1 ∉ schedule.map (·.1) ∧ countsAs app rs kind s = true then
        counted app rs kind schedule ++ [s.2]
      else counted app rs kind schedule := by
  rw [counted, arrivals_concat, counted]
  by_cases hmem : s.1 ∈ schedule.map (·.1)
  · rw [if_pos hmem, if_neg fun h => h.1 hmem]
  · rw [if_neg hmem, List.filter_append, List.map_append]
    cases hcounts : countsAs app rs kind s with
    | true =>
        rw [if_pos ⟨hmem, rfl⟩, List.filter_cons_of_pos hcounts]
        rfl
    | false =>
        rw [if_neg (fun h => Bool.false_ne_true h.2), List.filter_cons_of_neg
          (hcounts ▸ Bool.false_ne_true)]
        exact List.append_nil _

theorem counted_grow (app : Application) (rs : List Request) (kind : Request → Bool)
    (schedule more : List (Nat × Moment)) :
    counted app rs kind schedule <+: counted app rs kind (schedule ++ more) :=
  ((arrivals_grow schedule more).filter _).map _

/-- Whether a request is one of a client for a path. -/
def isFor (client path : String) (r : Request) : Bool :=
  RateLimit.clientOf r = client && r.path = path

theorem isFor_iff {client path : String} :
    isFor client path r = true ↔ RateLimit.clientOf r = client ∧ r.path = path := by
  rw [isFor, Bool.and_eq_true, decide_eq_true_eq, decide_eq_true_eq]

/-! ## What a schedule does to the windows -/

theorem getElem?_of_not_mem (app : Application) (st : Standing) (hr : rs[i]? = some r)
    (h : i ∉ schedule.map (·.1)) :
    ((ofRequests st rs).runTimed app schedule).exchanges[i]? = some (.ofRequest r) := by
  obtain ⟨turns, hmoments, hx⟩ :=
    exists_turns_runTimed app (ofRequests_of_getElem? st hr) schedule
  rw [momentsOf_eq_nil h, List.map_eq_nil_iff] at hmoments
  rw [hx, hmoments]
  rfl

theorem arrived_of_mem (app : Application) (st : Standing) (hr : rs[i]? = some r)
    (h : i ∈ schedule.map (·.1)) :
    ∃ x, ((ofRequests st rs).runTimed app schedule).exchanges[i]? = some x ∧
      x.stage ≠ .arrived := by
  obtain ⟨turns, hmoments, hx⟩ :=
    exists_turns_runTimed app (ofRequests_of_getElem? st hr) schedule
  refine ⟨_, hx, Exchange.along_ne_arrived ?_ _⟩
  rintro rfl
  exact momentsOf_ne_nil h hmoments.symm

/-- The turn of a request changes what is kept if it is its first one, and only if the
request is counted. -/
theorem standing_concat (hlimited : app.LimitedTo l) (st : Standing) (rs : List Request)
    (schedule : List (Nat × Moment)) (i : Nat) (m : Moment) :
    ((ofRequests st rs).runTimed app (schedule ++ [(i, m)])).standing =
      let before := ((ofRequests st rs).runTimed app schedule).standing
      match rs[i]? with
      | none => before
      | some r =>
        if i ∉ schedule.map (·.1) ∧ app.counts m r = true then
          { before with windows := (Exchange.hitOn l m before r).2 }
        else before := by
  rw [runTimed_concat, standing_step]
  cases hr : rs[i]? with
  | none =>
      rw [getElem?_runTimed_eq_none (by rw [ofRequests_getElem?, hr]; rfl)]
  | some r =>
      by_cases hmem : i ∈ schedule.map (·.1)
      · -- it arrived with an earlier turn, and only arriving changes what is kept
        obtain ⟨x, hx, harrived⟩ := arrived_of_mem app st hr hmem
        simp only [hx]
        rw [Exchange.step_standing_of_ne_arrived harrived, if_neg fun h => h.1 hmem]
      · simp only [getElem?_of_not_mem app st hr hmem]
        rw [Exchange.step_standing_of_limited hlimited]
        simp only [hmem, not_false_eq_true, true_and]

/-- What is kept of a client and a path is the window of the requests that have been counted
for them. -/
theorem windows_eq (hlimited : app.LimitedTo l) (hfresh : st.windows = [])
    (hkeys : ∀ r ∈ rs, RateLimit.windowKey (RateLimit.clientOf r) r.path l =
      RateLimit.windowKey client path l → RateLimit.clientOf r = client ∧ r.path = path)
    (schedule : List (Nat × Moment)) :
    Assoc.get? (RateLimit.windowKey client path l)
        ((ofRequests st rs).runTimed app schedule).standing.windows =
      l.kept (l.latest (counted app rs (isFor client path) schedule)) := by
  induction schedule using List.reverseRecOn with
  | nil =>
      rw [show ((ofRequests st rs).runTimed app []).standing.windows = st.windows from rfl, hfresh]
      rfl
  | append_singleton schedule s ih =>
      obtain ⟨i, m⟩ := s
      rw [standing_concat hlimited, counted_concat]
      cases hr : rs[i]? with
      | none =>
          rw [if_neg (fun h => Bool.false_ne_true ((countsAs_of_none hr).symm.trans h.2))]
          exact ih
      | some r =>
          dsimp only
          by_cases hcounts : i ∉ schedule.map (·.1) ∧ app.counts m r = true
          · rw [if_pos hcounts]
            by_cases hkey : RateLimit.windowKey (RateLimit.clientOf r) r.path l =
                RateLimit.windowKey client path l
            · have hkind : isFor client path r = true :=
                isFor_iff.mpr (hkeys r (List.mem_of_getElem? hr) hkey)
              rw [if_pos ⟨hcounts.1, (countsAs_iff hr).mpr ⟨hkind, hcounts.2⟩⟩,
                RateLimit.Limit.latest_concat, ← (RateLimit.hit_of_kept ih m).2,
                Exchange.hitOn, hkey]
            · -- another key is counted under, which leaves this one as it is
              rw [if_neg, Exchange.hitOn, RateLimit.get?_hit_of_ne hkey]
              · exact ih
              · intro h
                obtain ⟨hclient, hpath⟩ := isFor_iff.mp ((countsAs_iff hr).mp h.2).1
                exact hkey (by rw [hclient, hpath])
          · rw [if_neg hcounts, if_neg]
            · exact ih
            · intro h
              exact hcounts ⟨h.1, ((countsAs_iff hr).mp h.2).2⟩

/-- What counting a request comes to is a matter of its own client and path. -/
theorem hitOn_eq_tally (hlimited : app.LimitedTo l) (hfresh : st.windows = [])
    (hkeys : ∀ r' ∈ rs, RateLimit.windowKey (RateLimit.clientOf r') r'.path l =
      RateLimit.windowKey (RateLimit.clientOf r) r.path l →
        RateLimit.clientOf r' = RateLimit.clientOf r ∧ r'.path = r.path)
    (schedule : List (Nat × Moment)) (m : Moment) :
    (Exchange.hitOn l m ((ofRequests st rs).runTimed app schedule).standing r).1 =
      l.tally (l.latest (counted app rs (isFor (RateLimit.clientOf r) r.path) schedule)) m :=
  (RateLimit.hit_of_kept (windows_eq hlimited hfresh hkeys schedule) m).1

theorem keep_refusal (j : Jar) : j.keep RateLimit.refusal = j :=
  Jar.keep_eq_self (by rfl)

/-- The requests counted for a client and a path in the window that is open at a time. -/
def window (app : Application) (l : RateLimit.Limit) (rs : List Request) (client path : String)
    (schedule : List (Nat × Moment)) (now : Int) : List Moment :=
  l.openAt now (l.latest (counted app rs (isFor client path) schedule))

/-- The request at a place has been turned away, and not been told so yet. -/
def Refused (p : Pool) (i : Nat) : Prop :=
  (p.exchanges[i]?).map (·.stage) = some (.answered RateLimit.refusal)

theorem getElem?_of_arrival (app : Application) (st : Standing) (hr : rs[i]? = some r)
    (hfirst : i ∉ schedule.map (·.1)) (m : Moment) :
    ((ofRequests st rs).runTimed app (schedule ++ [(i, m)])).exchanges[i]? =
      some ((Exchange.ofRequest r).step app m
        ((ofRequests st rs).runTimed app schedule).standing).2 := by
  rw [runTimed_concat, step_getElem?, if_pos rfl, getElem?_of_not_mem app st hr hfirst]
  rfl

/-- Only what is counted is turned away. -/
theorem meters_of_refused (hr : rs[i]? = some r) (hfirst : i ∉ schedule.map (·.1))
    (hrefused : Refused ((ofRequests st rs).runTimed app (schedule ++ [(i, m)])) i) :
    app.meters r = true := by
  rw [Refused, getElem?_of_arrival app st hr hfirst, Option.map_some, Option.some_inj] at hrefused
  cases hmeters : app.meters r with
  | true => rfl
  | false => exact absurd hrefused (Exchange.not_refused_of_unmetered hmeters _ _)

theorem refused_iff_counts (hlimited : app.LimitedTo l) (hr : rs[i]? = some r)
    (hfirst : i ∉ schedule.map (·.1)) (m : Moment) :
    Refused ((ofRequests st rs).runTimed app (schedule ++ [(i, m)])) i ↔
      r.hasAddress = true ∧ app.counts m r = true ∧
        (Exchange.hitOn l m ((ofRequests st rs).runTimed app schedule).standing r).1 =
          .exceeded := by
  rw [Application.counts]
  cases hmeters : app.meters r with
  | true =>
      rw [Refused, getElem?_of_arrival app st hr hfirst, Option.map_some, Option.some_inj,
        Exchange.step_refused_iff hlimited hmeters, Bool.true_and]
  | false =>
      refine iff_of_false (fun hrefused => ?_) fun h => Bool.noConfusion h.2.1
      rw [meters_of_refused hr hfirst hrefused] at hmeters
      cases hmeters

theorem refused_iff_exceeded (hlimited : app.LimitedTo l) (hr : rs[i]? = some r)
    (hroute : Router.answers app.places r.method r.path = true)
    (hfirst : i ∉ schedule.map (·.1)) (m : Moment) :
    Refused ((ofRequests st rs).runTimed app (schedule ++ [(i, m)])) i ↔
      r.hasAddress = true ∧
        (Router.balksAt app.places r.path = false ∧
          (app.load (Application.second m.now) r).isSome = true) ∧
        (Exchange.hitOn l m ((ofRequests st rs).runTimed app schedule).standing r).1 =
          .exceeded := by
  rw [refused_iff_counts hlimited hr hfirst, Application.counts, Application.meters, hroute,
    Bool.and_true, Bool.and_eq_true, Bool.not_eq_true']

/-- Nothing is done for a request that is turned away but telling it so. -/
theorem getElem?_of_refused (hlimited : app.LimitedTo l) (hr : rs[i]? = some r)
    (hfirst : i ∉ schedule.map (·.1))
    (hrefused : Refused ((ofRequests st rs).runTimed app (schedule ++ [(i, m)])) i)
    (more : List (Nat × Moment)) :
    ∃ x, ((ofRequests st rs).runTimed app (schedule ++ (i, m) :: more)).exchanges[i]? = some x ∧
      x.verified = [] ∧ x.calls = [] ∧
      x.stage = if i ∈ more.map (·.1) then .done RateLimit.refusal false
        else .answered RateLimit.refusal := by
  have hmeters := meters_of_refused hr hfirst hrefused
  have hturn := getElem?_of_arrival app st hr hfirst m
  have hstage := hrefused
  rw [Refused, hturn, Option.map_some, Option.some_inj] at hstage
  obtain ⟨a, hload, hstep⟩ := Exchange.step_of_refused hlimited hmeters hstage
  obtain ⟨haddress, -⟩ := (refused_iff_counts hlimited hr hfirst m).mp hrefused
  rw [hstep] at hturn
  obtain ⟨turns, hmoments, hx⟩ := exists_turns_runTimed app hturn more
  rw [← runTimed_append, List.append_assoc, List.singleton_append] at hx
  have hsettles := Exchange.along_settles app turns
    (x := { Exchange.welcomed r a with stage := .answered RateLimit.refusal }) rfl
  refine ⟨_, hx, hsettles.verified, hsettles.calls, ?_⟩
  cases turns with
  | nil =>
      rw [if_neg]
      · rfl
      · exact fun hmem => momentsOf_ne_nil hmem hmoments.symm
  | cons t rest =>
      rw [if_pos, Exchange.along_of_refused haddress hload]
      by_contra hmem
      rw [momentsOf_eq_nil hmem] at hmoments
      cases hmoments

/-- A request is turned away just if so many requests as are allowed were counted for its
client and its path in the window that is open when it arrives, and nothing breaks it off
before. It has its answer with its next turn, has had nothing run for it, and keeps its
session. -/
theorem refused_iff (hlimited : app.LimitedTo l) (hfresh : st.windows = [])
    (hclients : ∀ r ∈ rs, '/' ∉ (RateLimit.clientOf r).toList) (hr : rs[i]? = some r)
    (hroute : Router.answers app.places r.method r.path = true)
    (hfirst : i ∉ schedule.map (·.1)) (m : Moment) :
    let w := window app l rs (RateLimit.clientOf r) r.path schedule m.now
    (Refused ((ofRequests st rs).runTimed app (schedule ++ [(i, m)])) i ↔
        r.hasAddress = true ∧
        (Router.balksAt app.places r.path = false ∧
          (app.load (Application.second m.now) r).isSome = true) ∧
        l.amount ≤ w.length ∧ (w ≠ [] ∨ RateLimit.canEnd m.fine l = true)) ∧
      (Refused ((ofRequests st rs).runTimed app (schedule ++ [(i, m)])) i → ∀ more, ∃ x,
        ((ofRequests st rs).runTimed app (schedule ++ (i, m) :: more)).exchanges[i]? = some x ∧
          x.verified = [] ∧ x.calls = [] ∧
          x.stage = if i ∈ more.map (·.1) then .done RateLimit.refusal false
            else .answered RateLimit.refusal) ∧
      ∀ j : Jar, j.keep RateLimit.refusal = j := by
  intro w
  have hkeys : ∀ r' ∈ rs, RateLimit.windowKey (RateLimit.clientOf r') r'.path l =
      RateLimit.windowKey (RateLimit.clientOf r) r.path l →
        RateLimit.clientOf r' = RateLimit.clientOf r ∧ r'.path = r.path := fun r' hr' =>
    RateLimit.eq_of_windowKey (hclients r' hr') (hclients r (List.mem_of_getElem? hr))
  refine ⟨?_, fun hrefused => getElem?_of_refused hlimited hr hfirst hrefused, keep_refusal⟩
  rw [refused_iff_exceeded hlimited hr hroute hfirst, hitOn_eq_tally hlimited hfresh hkeys,
    RateLimit.Limit.tally_eq_exceeded_iff]
  rfl

/-! ## One request a minute -/

def front : RouteEntry Handler := ⟨"/api/v1/x", "get", ⟨true, none⟩, .naming "x"⟩

/-- An entry that answers at all paths of the application. -/
def anywhere : RouteEntry Handler := ⟨"/api/v1/\x7bp:path\x7d", "get", ⟨true, none⟩, .naming "x"⟩

/-- An application with one route and this limit. -/
def metered (limit : String) (e : RouteEntry Handler) : Application :=
  ⟨{ rateLimit := limit }, fun _ _ => .ok .invalid, .bare, [e],
    (Router.mount [e]).result.toOption.getD []⟩

/-- A request of a client that brings nothing along. -/
def visiting (client path : String) : Request := ⟨"GET", path, "", [], "", some client, none⟩

theorem parse_minute : RateLimit.parse? "1/minute" = some [⟨1, 1, .minute⟩] := by rfl

theorem metered_limitedTo (e : RouteEntry Handler) :
    (metered "1/minute" e).LimitedTo ⟨1, 1, .minute⟩ := ⟨rfl, parse_minute⟩

theorem front_answers (limit : String) :
    Router.answers (metered limit front).places "GET" "/api/v1/x" = true := by
  have hplaces : Router.answers ((Router.mount [front]).result.toOption.getD []) "GET"
    "/api/v1/x" = true := by decide +kernel
  exact hplaces

theorem front_readable (limit path : String) :
    Router.balksAt (metered limit front).places path = false := by
  have hbrace : ∀ e ∈ [front], '{' ∉ e.path.toList := by decide +kernel
  exact Router.not_balksAt_of_no_brace (Router.mount_result_of_no_brace hbrace) hbrace path

/-- Of two requests at one moment the second one is turned away. -/
theorem second_refused :
    (metered "1/minute" front).LimitedTo ⟨1, 1, .minute⟩ ∧
      (default : Standing).windows = [] ∧
      (∀ r ∈ [visiting "a" "/api/v1/x", visiting "a" "/api/v1/x"],
        '/' ∉ (RateLimit.clientOf r).toList) ∧
      Router.answers (metered "1/minute" front).places "GET" "/api/v1/x" = true ∧
      1 ∉ [(0, start)].map (·.1) ∧
      Refused ((ofRequests default [visiting "a" "/api/v1/x", visiting "a" "/api/v1/x"]).runTimed
        (metered "1/minute" front) [(0, start), (1, start)]) 1 := by
  have hclients : ∀ r ∈ [visiting "a" "/api/v1/x", visiting "a" "/api/v1/x"],
      '/' ∉ (RateLimit.clientOf r).toList := by decide +kernel
  have hcounted : (window (metered "1/minute" front) ⟨1, 1, .minute⟩
      [visiting "a" "/api/v1/x", visiting "a" "/api/v1/x"] "a" "/api/v1/x" [(0, start)]
      0).length = 1 := by decide +kernel
  have hfresh : (default : Standing).windows = [] := rfl
  have hfirst : 1 ∉ [(0, start)].map (·.1) := by decide
  refine ⟨metered_limitedTo front, hfresh, hclients, front_answers _, hfirst, ?_⟩
  refine ((refused_iff (metered_limitedTo front) hfresh hclients (i := 1) rfl (front_answers _)
    hfirst start).1).mpr ⟨by decide, ⟨front_readable _ _, rfl⟩, ?_, Or.inr rfl⟩
  exact hcounted.ge

/-- A limit of none in a span that no clock reaches the end of. -/
def endless : String := "0/1" ++ String.ofList (List.replicate 400 '0') ++ " second"

theorem parse_endless : RateLimit.parse? endless = some [⟨0, 10 ^ 400, .second⟩] := by
  have htext : endless.toList = "0/1".toList ++ List.replicate 400 '0' ++ " second".toList := by
    rw [endless, String.toList_append, String.toList_append,
      show (String.ofList (List.replicate 400 '0')).toList = _ from String.toList_ofList]
  rw [RateLimit.parse?, ← String.length_toList, htext]
  decide +kernel

theorem endless_limitedTo : (metered endless front).LimitedTo ⟨0, 10 ^ 400, .second⟩ :=
  ⟨rfl, parse_endless⟩

theorem anywhere_answers :
    Router.answers (metered "1/minute" anywhere).places "GET" "/api/v1/c" = true := by
  decide +kernel

theorem anywhere_readable :
    Router.balksAt (metered "1/minute" anywhere).places "/api/v1/c" = false := by
  decide +kernel

theorem parse_none : RateLimit.parse? "0/minute" = some [⟨0, 1, .minute⟩] := by rfl

/-- An application with a route for whole numbers that allows no requests. -/
def closed : Application := { Application.numbering with settings := { rateLimit := "0/minute" } }

theorem closed_limitedTo : closed.LimitedTo ⟨0, 1, .minute⟩ := ⟨rfl, parse_none⟩

theorem closed_balks : Router.balksAt closed.places Application.longPath = true := by
  change List.any (_ :: _) _ = true
  rw [List.any_cons, Mounted.balksAt, Application.balksAt_longPath, Bool.true_or]

/-- A client with slashes in its name is turned away at its first request, where what is kept
is that of another client. A client whose session or whose address cannot be read is not turned
away at all, and neither is anyone if no window can be opened. -/
theorem not_by_count_alone :
    (let rs := [visiting "a" "/api/v1/b//api/v1/c", visiting "a//api/v1/b" "/api/v1/c"];
      (metered "1/minute" anywhere).LimitedTo ⟨1, 1, .minute⟩ ∧
        Router.answers (metered "1/minute" anywhere).places "GET" "/api/v1/c" = true ∧
        (window (metered "1/minute" anywhere) ⟨1, 1, .minute⟩ rs "a//api/v1/b" "/api/v1/c"
          [(0, start)] 0).length = 0 ∧
        Refused ((ofRequests default rs).runTimed (metered "1/minute" anywhere)
          [(0, start), (1, start)]) 1) ∧
      (metered "1/minute" front).LimitedTo ⟨1, 1, .minute⟩ ∧
      (∀ limit, Router.answers (metered limit front).places "GET" "/api/v1/x" = true) ∧
      (let rs := [visiting "a" "/api/v1/x", Jar.numbered.attach (visiting "a" "/api/v1/x")];
        (window (metered "1/minute" front) ⟨1, 1, .minute⟩ rs "a" "/api/v1/x" [(0, start)]
            0).length = 1 ∧
          ¬ Refused ((ofRequests default rs).runTimed (metered "1/minute" front)
            [(0, start), (1, start)]) 1) ∧
      (let rs := [visiting "a" "/api/v1/x", { visiting "a" "/api/v1/x" with query := "ÿ" }];
        (window (metered "1/minute" front) ⟨1, 1, .minute⟩ rs "a" "/api/v1/x" [(0, start)]
            0).length = 1 ∧
          ¬ Refused ((ofRequests default rs).runTimed (metered "1/minute" front)
            [(0, start), (1, start)]) 1) ∧
      (metered endless front).LimitedTo ⟨0, 10 ^ 400, .second⟩ ∧
      ¬ Refused ((ofRequests default [visiting "a" "/api/v1/x"]).runTimed
        (metered endless front) [(0, { start with fine := true })]) 0 ∧
      closed.LimitedTo ⟨0, 1, .minute⟩ ∧
      Router.answers closed.places "GET" Application.longPath = true ∧
      ¬ Refused ((ofRequests default [visiting "a" Application.longPath]).runTimed closed
        [(0, start)]) 0 := by
  have hsecond : 1 ∉ [(0, start)].map (·.1) := by decide
  have hfirst : 0 ∉ ([] : List (Nat × Moment)).map (·.1) := List.not_mem_nil
  refine ⟨⟨metered_limitedTo anywhere, anywhere_answers, by rfl, ?_⟩,
    metered_limitedTo front, front_answers, ⟨by decide +kernel, ?_⟩, ⟨by decide +kernel, ?_⟩,
    endless_limitedTo, ?_, closed_limitedTo, ?_, ?_⟩
  · refine (refused_iff_exceeded (r := visiting "a//api/v1/b" "/api/v1/c")
      (metered_limitedTo anywhere) rfl anywhere_answers hsecond start).mpr
      ⟨by decide +kernel, ⟨anywhere_readable, rfl⟩, by decide +kernel⟩
  · intro hrefused
    obtain ⟨-, ⟨-, hload⟩, -⟩ := (refused_iff_exceeded
      (r := Jar.numbered.attach (visiting "a" "/api/v1/x")) (metered_limitedTo front) rfl
      (front_answers _) hsecond start).mp hrefused
    have hnone : (SessionCookie.load 1 "" 0
      (Jar.numbered.attach (visiting "a" "/api/v1/x"))).isSome = true := hload
    rw [Jar.load_numbered rfl] at hnone
    cases hnone
  · intro hrefused
    obtain ⟨haddress, -⟩ := (refused_iff_exceeded
      (r := { visiting "a" "/api/v1/x" with query := "ÿ" }) (metered_limitedTo front) rfl
      (front_answers _) hsecond start).mp hrefused
    have hnone : ({ visiting "a" "/api/v1/x" with query := "ÿ" } : Request).hasAddress =
      false := by decide +kernel
    rw [hnone] at haddress
    cases haddress
  · intro hrefused
    obtain ⟨-, -, hexceeded⟩ := (refused_iff_exceeded (r := visiting "a" "/api/v1/x")
      endless_limitedTo rfl (front_answers _) hfirst { start with fine := true }).mp hrefused
    have hbroken : (Exchange.hitOn ⟨0, 10 ^ 400, .second⟩ { start with fine := true } default
      (visiting "a" "/api/v1/x")).1 = .broken := by decide +kernel
    exact absurd (hbroken.symm.trans hexceeded) (by decide)
  · have hmount : (Router.mount [Application.counting]).result = .ok closed.places :=
      Application.mount_numbering
    refine Router.answers_of_find?
      (Router.find?_isSome_of_answering? (e := Application.counting) ?_)
    rw [Router.answering?_mount hmount]
    exact List.find?_cons_of_pos Application.counting_answers_longPath
  · intro hrefused
    have hmeters := meters_of_refused (r := visiting "a" Application.longPath) rfl hfirst hrefused
    obtain ⟨hreadable, -⟩ := Application.meters_iff.mp hmeters
    rw [show Router.balksAt closed.places (visiting "a" Application.longPath).path = true from
      closed_balks] at hreadable
    cases hreadable

end Pool

end Gatehouse
