import Gatehouse.Proofs.RateLimits
import Gatehouse.Proofs.TableScan
import Mathlib.Data.Finset.Prod
import Mathlib.Data.Finset.Card

/-!
# How far a limit bounds a route

A limit bounds the requests of a client for one path. A route answers at several paths: its
own, the one with a slash behind it, and each of these with a line break at the very end,
which patterns pass over. So a client gets through to the guard of a route as many times as
the limit allows on each of these paths, and `two_through` shows two requests where one is
allowed.

No two paths need have their windows opened at one time. In a period of some length a path may
see the end of a window and the beginning of the next one, which doubles the bound, but for
the period that starts with the first request of all.
-/

namespace Gatehouse

open Http

variable {app : Application} {l : RateLimit.Limit} {m : Moment} {st : Standing} {r : Request}

/-- The paths that an entry answers at if its own has no brace. -/
def RouteEntry.urls {κ : Type} (e : RouteEntry κ) : List String :=
  [e.path, e.path ++ "\n"] ++
    if Text.endsWith "/" e.path then [] else [e.path ++ "/", e.path ++ "/" ++ "\n"]

theorem RouteEntry.mem_urls_of_answers {κ : Type} {e : RouteEntry κ} {method path : String}
    (hbrace : '{' ∉ e.path.toList) (h : e.answers method path = true) : path ∈ e.urls := by
  rw [answers, Bool.and_eq_true, Bool.or_eq_true, Bool.and_eq_true, Bool.not_eq_true',
    PathPattern.fits_of_no_brace hbrace,
    PathPattern.fits_of_no_brace (not_mem_append_slash hbrace)] at h
  rw [urls, List.mem_append]
  obtain ⟨-, hown | ⟨hslash, htwin⟩⟩ := h
  · exact Or.inl (by simpa using hown)
  · exact Or.inr (by simpa [hslash] using htwin)

namespace Exchange

variable {place : Mounted Handler} {params : List (String × Datum)}

theorem enter_routed_iff {x : Exchange} :
    (x.enter app).stage = .routed place params ↔
      Cors.question? x.request = none ∧
        Router.destination app.places x.request = .place place params := by
  rw [enter]
  cases Cors.question? x.request with
  | some asked =>
      constructor
      · intro h
        cases h
      · rintro ⟨h, -⟩
        cases h
  | none =>
      simp only [route, true_and]
      cases Router.destination app.places x.request with
      | place place' params' =>
          constructor
          · intro h
            cases h
            rfl
          · intro h
            cases h
            rfl
      | page => exact iff_of_false (by intro h; cases h) (by intro h; cases h)
      | elsewhere path => exact iff_of_false (by intro h; cases h) (by intro h; cases h)
      | unreadable => exact iff_of_false (by intro h; cases h) (by intro h; cases h)
      | nowhere => exact iff_of_false (by intro h; cases h) (by intro h; cases h)

theorem heedTally_routed_iff {x : Exchange} {tally : RateLimit.Tally} :
    (x.heedTally app tally).stage = .routed place params ↔
      tally = .within ∧ Cors.question? x.request = none ∧
        Router.destination app.places x.request = .place place params := by
  cases tally with
  | within => exact ⟨fun h => ⟨rfl, enter_routed_iff.mp h⟩, fun h => enter_routed_iff.mpr h.2⟩
  | exceeded => exact ⟨nofun, nofun⟩
  | broken => exact ⟨nofun, nofun⟩

/-- A request comes to its route even if it is to be lost later on. -/
theorem step_routed_eq {x : Exchange} (hx : x.stage.isBehindGate = false) :
    (x.step app m st).2.stage = .routed place params ↔
      (x.stepAddressed app m st).2.stage = .routed place params := by
  constructor
  · intro h
    simp only [step] at h
    split at h
    · cases h
    · exact h
  · intro h
    rw [step_eq_of_not_wasNamed (wasNamed_front hx (by rw [h]; rfl))]
    exact h

/-- What comes to a route was counted. -/
theorem meters_of_step_routed (hlimited : app.LimitedTo l)
    (h : ((ofRequest r).step app m st).2.stage = .routed place params) :
    app.meters r = true := by
  have harrive : (stepAddressed app m st (ofRequest r)).2 =
      ((ofRequest r).arrive app m st).2 := rfl
  rw [step_routed_eq (x := ofRequest r) rfl, harrive] at h
  cases hload : app.load (Application.second m.now) r with
  | none =>
      rw [arrive_of_unread st hload] at h
      cases h
  | some a =>
      rw [arrive_of_read st hload] at h
      cases hreadable : Router.balksAt app.places r.path with
      | true =>
          have huncountable : (welcomed r a).isUncountable app = true := by
            rw [isUncountable, hlimited.enabled]
            exact hreadable
          rw [meter_of_uncountable huncountable] at h
          cases h
      | false =>
          refine Application.meters_iff.mpr ⟨hreadable, ?_⟩
          by_contra hstray
          have hmeters : app.meters r = false :=
            Bool.eq_false_iff.mpr fun hmeters => hstray (Application.meters_iff.mp hmeters).2
          rcases meter_of_unmetered (x := welcomed r a) hmeters m st with
            hmeter | hmeter
          · rw [hmeter] at h
            cases h
          · rw [hmeter] at h
            obtain ⟨-, hplace⟩ := enter_routed_iff.mp h
            have hfind : Router.find? app.places r.method r.path = some place :=
              (Router.destination_eq_place hplace).2.2.1
            exact hstray (Router.answers_of_find? (Option.isSome_of_eq_some hfind))

theorem step_routed_iff (hlimited : app.LimitedTo l) (hmeters : app.meters r = true) :
    ((ofRequest r).step app m st).2.stage = .routed place params ↔
      Router.destination app.places r = .place place params ∧
        (app.load (Application.second m.now) r).isSome = true ∧
        Cors.question? r = none ∧ (hitOn l m st r).1 = .within := by
  have harrive : (stepAddressed app m st (ofRequest r)).2 =
      ((ofRequest r).arrive app m st).2 := rfl
  rw [step_routed_eq (x := ofRequest r) rfl, harrive]
  cases hload : app.load (Application.second m.now) r with
  | none =>
      rw [arrive_of_unread st hload]
      exact ⟨fun h => Stage.noConfusion h, fun h => absurd h.2.1 Bool.false_ne_true⟩
  | some a =>
      rw [arrive_of_limited hlimited hmeters hload, heedTally_routed_iff]
      constructor
      · rintro ⟨htally, hquestion, hplace⟩
        exact ⟨hplace, rfl, hquestion, htally⟩
      · rintro ⟨hplace, -, hquestion, htally⟩
        exact ⟨htally, hquestion, hplace⟩

end Exchange

namespace Pool

variable {rs : List Request} {schedule : List (Nat × Moment)} {i : Nat} {client : String}
  {e : RouteEntry Handler}

/-- The request at a place has come to the guard of an entry. -/
def AtGuard (p : Pool) (i : Nat) (e : RouteEntry Handler) : Prop :=
  ∃ place params, place.entry = e ∧
    (p.exchanges[i]?).map (·.stage) = some (.routed place params)

theorem meters_of_atGuard (hlimited : app.LimitedTo l) (hr : rs[i]? = some r)
    (hfirst : i ∉ schedule.map (·.1))
    (h : AtGuard ((ofRequests st rs).runTimed app (schedule ++ [(i, m)])) i e) :
    app.meters r = true := by
  obtain ⟨place, params, -, hstage⟩ := h
  rw [getElem?_of_arrival app st hr hfirst, Option.map_some, Option.some_inj] at hstage
  exact Exchange.meters_of_step_routed hlimited hstage

theorem atGuard_iff_within (hlimited : app.LimitedTo l) (hr : rs[i]? = some r)
    (hentry : Router.answering? app.places r.method r.path = some e)
    (hfirst : i ∉ schedule.map (·.1)) (m : Moment) :
    AtGuard ((ofRequests st rs).runTimed app (schedule ++ [(i, m)])) i e ↔
      Pages.answers r.method r.path = false ∧
        (Router.balksAt app.places r.path = false ∧
          (app.load (Application.second m.now) r).isSome = true) ∧
        Cors.question? r = none ∧
        (Exchange.hitOn l m ((ofRequests st rs).runTimed app schedule).standing r).1 =
          .within := by
  have hroute : Router.answers app.places r.method r.path = true :=
    Router.answers_of_find? (Router.find?_isSome_of_answering? hentry)
  cases hreadable : Router.balksAt app.places r.path with
  | true =>
      refine iff_of_false (fun hguard => ?_) fun h => Bool.noConfusion h.2.1.1
      obtain ⟨hread, -⟩ := Application.meters_iff.mp (meters_of_atGuard hlimited hr hfirst hguard)
      rw [hreadable] at hread
      cases hread
  | false =>
      have hmeters : app.meters r = true := Application.meters_iff.mpr ⟨hreadable, hroute⟩
      simp only [AtGuard, getElem?_of_arrival app st hr hfirst, Option.map_some, Option.some_inj,
        Exchange.step_routed_iff hlimited hmeters, true_and]
      constructor
      · rintro ⟨place, params, -, hplace, hrest⟩
        exact ⟨(Router.destination_eq_place hplace).1, hrest⟩
      · rintro ⟨hpage, hrest⟩
        obtain ⟨place, params, hplace, hentry⟩ := Router.destination_of_answering? hpage
          (Router.stumbles_of_not_balksAt hreadable r.method) hentry
        exact ⟨place, params, hentry, hplace, hrest⟩

theorem answering?_of_atGuard (hr : rs[i]? = some r) (hfirst : i ∉ schedule.map (·.1))
    (h : AtGuard ((ofRequests st rs).runTimed app (schedule ++ [(i, m)])) i e) :
    Router.answering? app.places r.method r.path = some e := by
  obtain ⟨place, params, rfl, hstage⟩ := h
  rw [getElem?_of_arrival app st hr hfirst, Option.map_some, Option.some_inj] at hstage
  have hmoves : Exchange.Moves app ⟨m, ((ofRequests st rs).runTimed app schedule).standing⟩
      (.ofRequest r) _ := Exchange.step_moves
  generalize ((Exchange.ofRequest r).step app m
    ((ofRequests st rs).runTimed app schedule).standing).2 = y at hstage hmoves
  cases hmoves with
  | finds _ _ hplace =>
      injection hstage with hplaces _
      rw [← hplaces]
      exact Router.answering?_of_destination hplace
  | leaves _ hleaving _ => rw [hstage] at hleaving; cases hleaving
  | opens h _ | shows h _ _ | accepts h _ | calls h | acts h _ _ => cases h

section OneClient

variable (hlimited : app.LimitedTo l) (hfresh : st.windows = [])
  (hclient : ∀ r ∈ rs, RateLimit.clientOf r = client)

include hlimited hfresh hclient

/-- For one client its paths alone keep the windows apart. -/
theorem hitOn_eq_tally_of_client (hr : rs[i]? = some r) (schedule : List (Nat × Moment))
    (m : Moment) :
    (Exchange.hitOn l m ((ofRequests st rs).runTimed app schedule).standing r).1 =
      l.tally (l.latest (counted app rs (isFor client r.path) schedule)) m := by
  have hown : RateLimit.clientOf r = client := hclient r (List.mem_of_getElem? hr)
  rw [hitOn_eq_tally hlimited hfresh, hown]
  intro r' hr' hkey
  rw [hown, hclient r' hr'] at hkey
  exact ⟨by rw [hown, hclient r' hr'], RateLimit.path_eq_of_windowKey hkey⟩

theorem atGuard_iff (hr : rs[i]? = some r) (hfirst : i ∉ schedule.map (·.1))
    (hentry : Router.answering? app.places r.method r.path = some e) (m : Moment) :
    AtGuard ((ofRequests st rs).runTimed app (schedule ++ [(i, m)])) i e ↔
      Pages.answers r.method r.path = false ∧
        (Router.balksAt app.places r.path = false ∧
          (app.load (Application.second m.now) r).isSome = true) ∧
        Cors.question? r = none ∧
        (window app l rs client r.path schedule m.now).length < l.amount ∧
        (window app l rs client r.path schedule m.now ≠ [] ∨
          RateLimit.canEnd m.fine l = true) := by
  rw [atGuard_iff_within hlimited hr hentry hfirst, hitOn_eq_tally_of_client hlimited hfresh
    hclient hr, RateLimit.Limit.tally_eq_within_iff]
  rfl

end OneClient

/-! ## One period -/

/-- With its arrival at `m`, behind the turns `before`, the request `r` at `i` comes to the
guard of `e`. -/
structure Through (app : Application) (st : Standing) (rs : List Request)
    (schedule : List (Nat × Moment)) (e : RouteEntry Handler) (i : Nat)
    (before : List (Nat × Moment)) (m : Moment) (r : Request) : Prop where
  request : rs[i]? = some r
  split : ∃ more, schedule = before ++ (i, m) :: more
  first : i ∉ before.map (·.1)
  atGuard : AtGuard ((ofRequests st rs).runTimed app (before ++ [(i, m)])) i e

/-- The time at which the window was opened that a request is counted in. -/
def openedAt (app : Application) (l : RateLimit.Limit) (rs : List Request)
    (client path : String) (before : List (Nat × Moment)) (m : Moment) : Int :=
  l.openedAt (l.latest (counted app rs (isFor client path) before)) m

/-- Whether a request is one of a client for one of some paths. -/
def isForOneOf (client : String) (paths : List String) (r : Request) : Bool :=
  RateLimit.clientOf r = client && paths.contains r.path

theorem isForOneOf_of_isFor {path : String} {paths : List String} (hpath : path ∈ paths)
    (h : isFor client path r = true) : isForOneOf client paths r = true := by
  obtain ⟨hclient, rfl⟩ := isFor_iff.mp h
  rw [isForOneOf, Bool.and_eq_true, decide_eq_true_eq, List.contains_iff_mem]
  exact ⟨hclient, hpath⟩

theorem mem_counted_of_imp {kind kind' : Request → Bool} (h : ∀ r, kind r = true → kind' r = true)
    (hm : m ∈ counted app rs kind schedule) : m ∈ counted app rs kind' schedule := by
  obtain ⟨⟨j, m⟩, hs, rfl⟩ := List.mem_map.mp hm
  obtain ⟨hmem, hcounts⟩ := List.mem_filter.mp hs
  refine List.mem_map_of_mem (List.mem_filter.mpr ⟨hmem, ?_⟩)
  cases hr : rs[j]? with
  | none => rw [countsAs_of_none hr] at hcounts; cases hcounts
  | some r =>
      obtain ⟨hkind, hcounted⟩ := (countsAs_iff hr).mp hcounts
      exact (countsAs_iff hr).mpr ⟨h r hkind, hcounted⟩

theorem mem_schedule_of_mem_counted {kind : Request → Bool}
    (hm : m ∈ counted app rs kind schedule) : ∃ s ∈ schedule, s.2 = m := by
  obtain ⟨s, hs, rfl⟩ := List.mem_map.mp hm
  exact ⟨s, (arrivals_sublist schedule).mem (List.mem_filter.mp hs).1, rfl⟩

/-- While the clock does not run backwards, a window is opened before requests are counted. -/
theorem openedAt_le {before : List (Nat × Moment)} (l : RateLimit.Limit) (client path : String)
    (hordered : ∀ s ∈ before, s.2.now ≤ m.now) :
    openedAt app l rs client path before m ≤ m.now := by
  obtain ⟨opening, hmem, hopened⟩ | hopened :=
    RateLimit.Limit.openedAt_mem (l.latest (counted app rs (isFor client path) before)) m
  · obtain ⟨s, hs, rfl⟩ := mem_schedule_of_mem_counted (RateLimit.Limit.mem_of_mem_latest hmem)
    rw [openedAt, hopened]
    exact hordered s hs
  · exact hopened.le

theorem mem_urls_of_answering? (hmount : (Router.mount app.table).result = .ok app.places)
    (hbrace : '{' ∉ e.path.toList)
    (hentry : Router.answering? app.places r.method r.path = some e) : r.path ∈ e.urls := by
  rw [Router.answering?_mount hmount] at hentry
  have hanswers := List.find?_some hentry
  exact e.mem_urls_of_answers hbrace hanswers

namespace Through

variable {before before' : List (Nat × Moment)} {j : Nat} {m' : Moment} {r' : Request}
  {since : Int}

theorem answering? (h : Through app st rs schedule e i before m r) :
    Router.answering? app.places r.method r.path = some e :=
  answering?_of_atGuard h.request h.first h.atGuard

/-- After a period in which none of these requests was counted, no window is open. -/
theorem le_openedAt {paths : List String} (hpath : r.path ∈ paths)
    (hpause : ∀ m' ∈ counted app rs (isForOneOf client paths) schedule,
      since ≤ m'.now ∨ m'.now + l.period ≤ since)
    (h : Through app st rs schedule e i before m r) (hafter : since ≤ m.now)
    (hlapse : m.now < openedAt app l rs client r.path before m + l.period) :
    since ≤ openedAt app l rs client r.path before m := by
  obtain ⟨more, hmore⟩ := h.split
  obtain ⟨opening, hmem, hopened⟩ | hopened :=
    RateLimit.Limit.openedAt_mem (l.latest (counted app rs (isFor client r.path) before)) m
  · have hcounted : opening ∈ counted app rs (isForOneOf client paths) schedule := by
      refine mem_counted_of_imp (fun r => isForOneOf_of_isFor hpath) ?_
      rw [hmore]
      exact (counted_grow app rs _ before _).subset (RateLimit.Limit.mem_of_mem_latest hmem)
    rw [openedAt, hopened] at hlapse ⊢
    rcases hpause opening hcounted with hsince | hlapsed
    · exact hsince
    · omega
  · rw [openedAt, hopened]
    exact hafter

section OneClient

variable (hlimited : app.LimitedTo l) (hfresh : st.windows = [])
  (hclient : ∀ r ∈ rs, RateLimit.clientOf r = client)

include hlimited hclient

/-- A request that comes to a guard was counted for its path. -/
theorem counted_concat (h : Through app st rs schedule e i before m r)
    (hload : (app.load (Application.second m.now) r).isSome = true) :
    counted app rs (isFor client r.path) (before ++ [(i, m)]) =
      counted app rs (isFor client r.path) before ++ [m] := by
  have hkind : isFor client r.path r = true :=
    isFor_iff.mpr ⟨hclient r (List.mem_of_getElem? h.request), rfl⟩
  have hcounts : app.counts m r = true := by
    rw [Application.counts, hload, Bool.and_true]
    exact meters_of_atGuard hlimited h.request h.first h.atGuard
  rw [Pool.counted_concat, if_pos ⟨h.first, (countsAs_iff h.request).mpr ⟨hkind, hcounts⟩⟩]

include hfresh

/-- Of two requests for one path that come to a guard the later one finds a longer window, or
one that was opened after that of the earlier one has lapsed. -/
theorem length_lt_or_lapsed (h : Through app st rs schedule e i before m r)
    (h' : Through app st rs schedule e j before' m' r') (hpath : r.path = r'.path)
    (hlt : before.length < before'.length) :
    (window app l rs client r.path before m.now).length <
        (window app l rs client r'.path before' m'.now).length ∨
      openedAt app l rs client r.path before m + l.period ≤
        openedAt app l rs client r'.path before' m' := by
  obtain ⟨more, hmore⟩ := h.split
  obtain ⟨more', hmore'⟩ := h'.split
  -- the later one has the earlier one among the turns before it
  have hearlier : before ++ [(i, m)] <+: schedule := by
    refine ⟨more, ?_⟩
    rw [hmore, List.append_assoc]
    rfl
  have hlater : before' <+: schedule := ⟨_, hmore'.symm⟩
  obtain ⟨rest, hrest⟩ := List.prefix_of_prefix_length_le hearlier hlater
    (by rw [List.length_append, List.length_singleton]; exact hlt)
  obtain ⟨-, ⟨-, hload⟩, -, -, hopen⟩ :=
    (atGuard_iff hlimited hfresh hclient h.request h.first h.answering? m).mp h.atGuard
  obtain ⟨counted', hcounted'⟩ :=
    counted_grow app rs (isFor client r.path) (before ++ [(i, m)]) rest
  rw [hrest, h.counted_concat hlimited hclient hload] at hcounted'
  rw [← hpath, window, openedAt, window, openedAt, ← hcounted']
  exact RateLimit.Limit.length_lt_or_lapsed hopen counted' m'

/-- In one period a window which was opened before it and one which was opened in it are all
that a path has. -/
theorem length_lt (hordered : schedule.Pairwise fun s s' => s.2.now ≤ s'.2.now)
    (h : Through app st rs schedule e i before m r)
    (h' : Through app st rs schedule e j before' m' r') (hpath : r.path = r'.path)
    (hlt : before.length < before'.length) (hafter : since ≤ m.now)
    (hbefore : m.now < since + l.period) (hbefore' : m'.now < since + l.period)
    (hsame : since ≤ openedAt app l rs client r.path before m ↔
      since ≤ openedAt app l rs client r'.path before' m') :
    (window app l rs client r.path before m.now).length <
      (window app l rs client r'.path before' m'.now).length := by
  have hopen : m.now < openedAt app l rs client r.path before m + l.period :=
    RateLimit.Limit.lt_openedAt (by omega) _ m
  have hopened : openedAt app l rs client r'.path before' m' ≤ m'.now := by
    obtain ⟨more, rfl⟩ := h'.split
    exact openedAt_le l client r'.path fun s hs =>
      (List.pairwise_append.mp hordered).2.2 s hs (j, m') List.mem_cons_self
  rcases length_lt_or_lapsed hlimited hfresh hclient h h' hpath hlt with hlonger | hlapsed
  · exact hlonger
  · omega

end OneClient

end Through

section Bound

variable (since : Int) (hmount : (Router.mount app.table).result = .ok app.places)
  (hlimited : app.LimitedTo l) (hfresh : st.windows = [])
  (hclient : ∀ r ∈ rs, RateLimit.clientOf r = client)
  (hordered : schedule.Pairwise fun s s' => s.2.now ≤ s'.2.now) (hbrace : '{' ∉ e.path.toList)

include hmount hlimited hfresh hclient hordered hbrace

/-- In one period, as many requests as are allowed come to a guard on each of its paths in a
window of each kind: one that is open as the period begins, and one that is opened in it. -/
theorem card_through_le (kinds : Finset Bool) (is : Finset Nat)
    (his : ∀ i ∈ is, ∃ before m r, Through app st rs schedule e i before m r ∧
      since ≤ m.now ∧ m.now < since + l.period ∧
      decide (since ≤ openedAt app l rs client r.path before m) ∈ kinds) :
    is.card ≤ kinds.card * (l.amount * e.urls.length) := by
  classical
  have : Nonempty Moment := ⟨start⟩
  choose! before m r hthrough hafter hbefore hkind using his
  have hdistinct : ∀ i ∈ is, ∀ j ∈ is, (r i).path = (r j).path →
      decide (since ≤ openedAt app l rs client (r i).path (before i) (m i)) =
        decide (since ≤ openedAt app l rs client (r j).path (before j) (m j)) →
      (before i).length < (before j).length →
      (window app l rs client (r i).path (before i) (m i).now).length ≠
        (window app l rs client (r j).path (before j) (m j).now).length := by
    intro i hi j hj hpath hopened hlt
    exact ((hthrough i hi).length_lt hlimited hfresh hclient hordered (hthrough j hj) hpath hlt
      (hafter i hi) (hbefore i hi) (hbefore j hj) (decide_eq_decide.mp hopened)).ne
  -- a request is told by its path, its window and the number of requests it finds there
  have hcard : is.card ≤ (kinds ×ˢ Finset.range l.amount ×ˢ e.urls.toFinset).card := by
    refine Finset.card_le_card_of_injOn
      (fun i => (decide (since ≤ openedAt app l rs client (r i).path (before i) (m i)),
        (window app l rs client (r i).path (before i) (m i).now).length, (r i).path)) ?_ ?_
    · intro i hi
      have hi' := hthrough i hi
      obtain ⟨-, -, -, hroom, -⟩ := (atGuard_iff hlimited hfresh hclient hi'.request hi'.first
        hi'.answering? (m i)).mp hi'.atGuard
      have hurl := mem_urls_of_answering? hmount hbrace hi'.answering?
      exact Finset.mem_product.mpr ⟨hkind i hi, Finset.mem_product.mpr
        ⟨Finset.mem_range.mpr hroom, List.mem_toFinset.mpr hurl⟩⟩
    · intro i hi j hj hsame
      obtain ⟨hopened, hrest⟩ := Prod.mk.inj hsame
      obtain ⟨hlength, hpath⟩ := Prod.mk.inj hrest
      obtain ⟨more, hmore⟩ := (hthrough i hi).split
      obtain ⟨more', hmore'⟩ := (hthrough j hj).split
      rcases Nat.lt_trichotomy (before i).length (before j).length with hlt | heq | hlt
      · exact absurd hlength (hdistinct i hi j hj hpath hopened hlt)
      · rw [hmore] at hmore'
        obtain ⟨-, htails⟩ := List.append_inj hmore' heq
        exact (Prod.mk.inj (List.cons.inj htails).1).1
      · exact absurd hlength.symm (hdistinct j hj i hi hpath.symm hopened.symm hlt)
  calc is.card ≤ kinds.card * (l.amount * e.urls.toFinset.card) := by
        rwa [Finset.card_product, Finset.card_product, Finset.card_range] at hcard
    _ ≤ kinds.card * (l.amount * e.urls.length) :=
        Nat.mul_le_mul_left _ (Nat.mul_le_mul_left _ (List.toFinset_card_le _))

/-- In one window of a path as many requests of a client come to the guard of its route as are
allowed, and the others are turned away. So in any period no more of them come to the guard than
twice the limit on each path of the route, and no more than the limit on each if none of them
was counted in the period before, as none is before the first one. -/
theorem limit_bounds_urls :
    (∀ before i m r, i ∉ before.map (·.1) → rs[i]? = some r →
      Router.answering? app.places r.method r.path = some e →
        let w := window app l rs client r.path before m.now
        let readable := Router.balksAt app.places r.path = false ∧
          (app.load (Application.second m.now) r).isSome = true
        let p := (ofRequests st rs).runTimed app (before ++ [(i, m)])
        r.path ∈ e.urls ∧
          (AtGuard p i e ↔ Pages.answers r.method r.path = false ∧ readable ∧
            Cors.question? r = none ∧
            w.length < l.amount ∧ (w ≠ [] ∨ RateLimit.canEnd m.fine l = true)) ∧
          (Refused p i ↔ r.hasAddress = true ∧ readable ∧
            l.amount ≤ w.length ∧ (w ≠ [] ∨ RateLimit.canEnd m.fine l = true))) ∧
      ∀ (since : Int) (is : Finset Nat),
        (∀ i ∈ is, ∃ before m r, Through app st rs schedule e i before m r ∧
          since ≤ m.now ∧ m.now < since + l.period) →
        is.card ≤ 2 * (l.amount * e.urls.length) ∧
          ((∀ m ∈ counted app rs (isForOneOf client e.urls) schedule,
            since ≤ m.now ∨ m.now + l.period ≤ since) → is.card ≤ l.amount * e.urls.length) := by
  refine ⟨fun before i m r hfirst hr hentry => ⟨mem_urls_of_answering? hmount hbrace hentry,
    atGuard_iff hlimited hfresh hclient hr hfirst hentry m, ?_⟩, fun since is his => ⟨?_, ?_⟩⟩
  · have hroute : Router.answers app.places r.method r.path = true :=
      Router.answers_of_find? (Router.find?_isSome_of_answering? hentry)
    rw [refused_iff_exceeded hlimited hr hroute hfirst, hitOn_eq_tally_of_client hlimited hfresh
      hclient hr, RateLimit.Limit.tally_eq_exceeded_iff]
    rfl
  · refine card_through_le since hmount hlimited hfresh hclient hordered hbrace Finset.univ is
      fun i hi => ?_
    obtain ⟨before, m, r, hthrough, hafter, hbefore⟩ := his i hi
    exact ⟨before, m, r, hthrough, hafter, hbefore, Finset.mem_univ _⟩
  · intro hpause
    rw [← Nat.one_mul (l.amount * e.urls.length)]
    refine card_through_le since hmount hlimited hfresh hclient hordered hbrace {true} is
      fun i hi => ?_
    obtain ⟨before, m, r, hthrough, hafter, hbefore⟩ := his i hi
    have hurl := mem_urls_of_answering? hmount hbrace hthrough.answering?
    have hopen := RateLimit.Limit.lt_openedAt (l := l) (by omega)
      (l.latest (counted app rs (isFor client r.path) before)) m
    have hopened := hthrough.le_openedAt hurl hpause hafter hopen
    exact ⟨before, m, r, hthrough, hafter, hbefore,
      Finset.mem_singleton.mpr (decide_eq_true hopened)⟩

end Bound

/-! ## One request a minute -/

theorem front_mount : (Router.mount [front]).result = .ok (metered "1/minute" front).places :=
  Router.mount_result_of_no_brace (by decide)

theorem front_answering {path : String}
    (h : path = "/api/v1/x" ∨ path = "/api/v1/x/") :
    Router.answering? (metered "1/minute" front).places "GET" path = some front := by
  rw [Router.answering?_mount front_mount]
  refine List.find?_cons_of_pos ?_
  rcases h with rfl | rfl <;> decide +kernel

/-- Of two requests for one path the second one is turned away. -/
theorem second_turned_away :
    (Router.mount (metered "1/minute" front).table).result =
        .ok (metered "1/minute" front).places ∧
      (metered "1/minute" front).LimitedTo ⟨1, 1, .minute⟩ ∧
      (default : Standing).windows = [] ∧
      (∀ r ∈ [visiting "a" "/api/v1/x", visiting "a" "/api/v1/x"],
        RateLimit.clientOf r = "a") ∧
      [(0, start), (1, start)].Pairwise (fun s s' => s.2.now ≤ s'.2.now) ∧
      '{' ∉ front.path.toList ∧
      Refused ((ofRequests default [visiting "a" "/api/v1/x", visiting "a" "/api/v1/x"]).runTimed
        (metered "1/minute" front) [(0, start), (1, start)]) 1 := by
  have hclient : ∀ r ∈ [visiting "a" "/api/v1/x", visiting "a" "/api/v1/x"],
      RateLimit.clientOf r = "a" := by decide
  have hordered : [(0, start), (1, start)].Pairwise
      (fun s s' : Nat × Moment => s.2.now ≤ s'.2.now) := by decide
  have hbrace : '{' ∉ front.path.toList := by decide
  have hfresh : (default : Standing).windows = [] := rfl
  refine ⟨front_mount, metered_limitedTo front, hfresh, hclient, hordered, hbrace, ?_⟩
  obtain ⟨-, -, hrefused⟩ := (limit_bounds_urls front_mount (metered_limitedTo front) hfresh
    hclient hordered hbrace).1 [(0, start)] 1 start (visiting "a" "/api/v1/x") (by decide) rfl
      (front_answering (Or.inl rfl))
  have hcounted : (window (metered "1/minute" front) ⟨1, 1, .minute⟩
      [visiting "a" "/api/v1/x", visiting "a" "/api/v1/x"] "a" "/api/v1/x" [(0, start)]
      start.now).length = 1 := by decide +kernel
  exact hrefused.mpr
    ⟨by rfl, ⟨front_readable _ _, rfl⟩, hcounted.ge, Or.inr rfl⟩

/-- Two requests of one client come to the guard of one route at one moment, where one is
allowed a minute: one with a slash at the end, and one without. -/
theorem two_through :
    let rs := [visiting "a" "/api/v1/x", visiting "a" "/api/v1/x/"]
    (metered "1/minute" front).LimitedTo ⟨1, 1, .minute⟩ ∧
      (default : Standing).windows = [] ∧ (∀ r ∈ rs, RateLimit.clientOf r = "a") ∧
      '{' ∉ front.path.toList ∧
      AtGuard ((ofRequests default rs).runTimed (metered "1/minute" front) [(0, start)]) 0 front ∧
      AtGuard ((ofRequests default rs).runTimed (metered "1/minute" front)
        [(0, start), (1, start)]) 1 front := by
  have hfirst : 0 ∉ ([] : List (Nat × Moment)).map (·.1) := List.not_mem_nil
  have hsecond : 1 ∉ [(0, start)].map (·.1) := by decide
  refine ⟨metered_limitedTo front, rfl, by decide, by decide, ?_, ?_⟩
  · exact (atGuard_iff_within (metered_limitedTo front) rfl (front_answering (Or.inl rfl)) hfirst
      start).mpr ⟨rfl, ⟨front_readable _ _, rfl⟩, by rfl, by rfl⟩
  · exact (atGuard_iff_within (metered_limitedTo front) rfl (front_answering (Or.inr rfl)) hsecond
      start).mpr ⟨rfl, ⟨front_readable _ _, rfl⟩, by rfl, by decide +kernel⟩

end Pool

end Gatehouse
