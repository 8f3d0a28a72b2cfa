import Gatehouse.Proofs.Confidentiality
import Gatehouse.Proofs.Dispatch
import Gatehouse.Proofs.Rounds

/-!
# Requests that nothing is declared for

A request that no entry answers is over after two turns: the first one makes its response
and the second one sends it. Neither depends on anything but the request and the moment at
which it arrives, so it makes no difference how the application stands, and the standing is
left as it is. In particular such a request is never counted against a limit.

The response says that there is no route, in the same words for a path of which nothing is
known and for one that is known with other methods. There are two exceptions. A path that is
no entry's, and would be with or without the slashes at its end, is pointed out to the
client; the pages that come along have paths too. Entries answer with a slash behind their paths
so that nobody has to be pointed anywhere; `two_slashes_pointed` is a request that is pointed all
the same. And the search for an entry may end at a pattern that balks at a number too long to be
read, which breaks the request off.
-/

namespace Gatehouse

open Http

variable {κ : Type}

/-! ## Which paths are known -/

/-- Whether `asked` matches the pattern that `path` denotes, but with a number that cannot be
read. -/
def Http.PathPattern.balks (path asked : String) : Bool :=
  match PathPattern.ofPath path with
  | .ok p => p.balksAt asked
  | .error _ => false

/-- The paths at which an entry is mounted. -/
def RouteEntry.mounts (e : RouteEntry κ) : List String :=
  if Text.endsWith "/" e.path then [e.path] else [e.path, e.path ++ "/"]

def RouteTable.mounts (t : RouteTable κ) : List String := t.flatMap RouteEntry.mounts

/-- Whether a path is one of an entry's, whatever the method. -/
def RouteTable.hasPath (t : RouteTable κ) (path : String) : Bool :=
  t.mounts.any (PathPattern.fits · path)

/-- Whether a path is one of an entry's, but with a number that cannot be read. -/
def RouteTable.balksAt (t : RouteTable κ) (path : String) : Bool :=
  t.mounts.any (PathPattern.balks · path)

/-- The path beside one that is neither an entry's nor a page's, if that is one. -/
def RouteTable.beside? (t : RouteTable κ) (path : String) : Option String :=
  if Pages.knows path || t.hasPath path || path = "/" then none
  else if Pages.knows (Router.toggled path) || t.hasPath (Router.toggled path) then
    some (Router.toggled path)
  else none

/-- Whether the first path that fits has a number that cannot be read. -/
def RouteTable.balksFirstAt (t : RouteTable κ) (path : String) : Bool :=
  !Pages.knows path &&
    (t.mounts.find? (PathPattern.fits · path)).any (PathPattern.balks · path)

/-- Whether a number that cannot be read ends a request: in its path, or in the path beside
it. -/
def RouteTable.breaksAt (t : RouteTable κ) (path : String) : Bool :=
  t.balksAt path || (t.beside? path).any t.balksFirstAt

/-- Another method on a path of some entry is never pointed anywhere. -/
theorem RouteTable.beside?_of_hasPath {t : RouteTable κ} {path : String}
    (h : t.hasPath path = true) : t.beside? path = none := by
  rw [beside?, h, Bool.or_true, Bool.true_or, if_pos rfl]

namespace Http

/-- Whether a place is one for a path as it is declared. -/
def Mounted.StandsAt (m : Mounted κ) (path : String) : Prop :=
  PathPattern.ofPath path = .ok m.pattern

theorem Mounted.StandsAt.balksAt {m : Mounted κ} {path : String} (h : m.StandsAt path)
    (asked : String) : m.balksAt asked = PathPattern.balks path asked := by
  rw [PathPattern.balks, show PathPattern.ofPath path = .ok m.pattern from h]
  rfl

theorem Mounted.StandsAt.hasPath {m : Mounted κ} {path : String} (h : m.StandsAt path)
    (asked : String) : m.hasPath asked = PathPattern.fits path asked := by
  rw [PathPattern.fits, show PathPattern.ofPath path = .ok m.pattern from h]
  rfl

theorem Mounted.standsAt_places {e : RouteEntry κ} {ps : List (Mounted κ)}
    (h : Mounted.places e = .ok ps) : List.Forall₂ StandsAt ps e.mounts := by
  rw [Mounted.places] at h
  rw [RouteEntry.mounts]
  obtain ⟨own, hown, h⟩ := exists_of_bind_eq_ok h
  obtain ⟨p, hp, rfl⟩ := Mounted.ofEntry_eq_ok hown
  split at h
  · next hslash =>
      injection h with h
      rw [if_pos hslash, ← h]
      exact .cons hp .nil
  · next hslash =>
      obtain ⟨twin, htwin, h⟩ := exists_of_bind_eq_ok h
      obtain ⟨p', hp', rfl⟩ := Mounted.ofEntry_eq_ok htwin
      injection h with h
      rw [if_neg hslash, ← h]
      exact .cons hp (.cons hp' .nil)

namespace Router

section Places

variable {places : List (Mounted κ)} {paths : List String}
  (h : List.Forall₂ Mounted.StandsAt places paths)

include h

theorem any_hasPath_eq (asked : String) :
    places.any (·.hasPath asked) = paths.any (PathPattern.fits · asked) := by
  induction h with
  | nil => rfl
  | cons hpath _ ih => rw [List.any_cons, List.any_cons, ih, hpath.hasPath]

theorem balksAt_eq (asked : String) :
    balksAt places asked = paths.any (PathPattern.balks · asked) := by
  rw [balksAt]
  induction h with
  | nil => rfl
  | cons hpath _ ih => rw [List.any_cons, List.any_cons, ih, hpath.balksAt]

theorem any_balksAt_find?_eq (asked : String) :
    (places.find? (·.hasPath asked)).any (·.balksAt asked) =
      (paths.find? (PathPattern.fits · asked)).any (PathPattern.balks · asked) := by
  induction h with
  | nil => rfl
  | cons hpath _ ih =>
      rw [List.find?_cons, List.find?_cons, hpath.hasPath]
      split
      · rw [Option.any_some, Option.any_some, hpath.balksAt]
      · exact ih

end Places

theorem standsAt_mountFrom {table : RouteTable κ} {before places : List (Mounted κ)}
    {logs : List LogEntry} {paths : List String}
    (h : (mountFrom before logs table).result = .ok places)
    (hbefore : List.Forall₂ Mounted.StandsAt before paths) :
    List.Forall₂ Mounted.StandsAt places (paths ++ table.mounts) := by
  induction table generalizing before logs paths with
  | nil =>
      rw [mountFrom] at h
      injection h with h
      rw [RouteTable.mounts, List.flatMap_nil, List.append_nil, ← h]
      exact hbefore
  | cons e rest ih =>
      rw [mountFrom] at h
      cases hps : Mounted.places e with
      | error why => rw [hps] at h; cases h
      | ok ps =>
          rw [hps] at h
          rw [RouteTable.mounts, List.flatMap_cons, ← List.append_assoc]
          exact ih h (List.rel_append hbefore (Mounted.standsAt_places hps))

section Known

variable {table : RouteTable κ} {places : List (Mounted κ)}
  (hmount : (mount table).result = .ok places)

include hmount

/-- The places stand in the order of the paths at which entries are mounted. -/
theorem standsAt_mount : List.Forall₂ Mounted.StandsAt places table.mounts :=
  standsAt_mountFrom hmount .nil

theorem knows_mount (path : String) :
    knows places path = (Pages.knows path || table.hasPath path) := by
  rw [knows, any_hasPath_eq (standsAt_mount hmount)]
  rfl

/-- Where the path beside another one leads to. -/
theorem aside_mount (path : String) :
    aside places path =
      if Pages.knows path || table.hasPath path then
        if table.balksFirstAt path then .unreadable else .elsewhere path
      else .nowhere := by
  have hplaces := standsAt_mount hmount
  rw [aside, RouteTable.balksFirstAt, RouteTable.hasPath, ← any_hasPath_eq hplaces,
    ← any_balksAt_find?_eq hplaces]
  cases Pages.knows path with
  | true => rfl
  | false =>
      cases hfind : places.find? (·.hasPath path) with
      | none =>
          rw [List.any_eq_false.mpr (List.find?_eq_none.mp hfind)]
          rfl
      | some m =>
          have hknown : places.any (·.hasPath path) = true :=
            List.any_eq_true.mpr ⟨m, List.mem_of_find?_eq_some hfind, by
              simpa using List.find?_some hfind⟩
          rw [hknown]
          rfl

end Known

theorem find?_of_undeclared {table : RouteTable κ} {places : List (Mounted κ)}
    {method path : String} (hmount : (mount table).result = .ok places)
    (hundeclared : ∀ e ∈ table, e.answers method path = false) :
    find? places method path = none := by
  refine Option.map_eq_none_iff.mp ((answering?_mount hmount method path).trans ?_)
  rw [List.find?_eq_none]
  intro e he
  rw [hundeclared e he]
  exact Bool.false_ne_true

/-- The search for a place that is not there goes through all places. -/
theorem stumbles_of_find?_none {places : List (Mounted κ)} {method path : String}
    (h : find? places method path = none) :
    stumbles method path places = balksAt places path := by
  induction places with
  | nil => rfl
  | cons m rest ih =>
      rw [find?, List.find?_eq_none] at h
      have hother : m.answers method path = false :=
        Bool.eq_false_iff.mpr (h m List.mem_cons_self)
      rw [stumbles, balksAt, List.any_cons, hother, Bool.not_false, Bool.true_and, ih]
      · rfl
      · exact List.find?_eq_none.mpr fun m' hm' => h m' (List.mem_cons_of_mem m hm')

theorem destination_of_undeclared {table : RouteTable κ} {places : List (Mounted κ)}
    {r : Request} (hmount : (mount table).result = .ok places)
    (hpage : Pages.answers r.method r.path = false)
    (hundeclared : ∀ e ∈ table, e.answers r.method r.path = false) :
    destination places r =
      if table.breaksAt r.path then .unreadable
      else
        match table.beside? r.path with
        | some path => .elsewhere path
        | none => .nowhere := by
  have hfind := find?_of_undeclared hmount hundeclared
  rw [destination, hpage, if_neg Bool.false_ne_true, stumbles_of_find?_none hfind,
    balksAt_eq (standsAt_mount hmount), ← RouteTable.balksAt, hfind, RouteTable.breaksAt]
  simp only [knows_mount hmount, aside_mount hmount]
  cases table.balksAt r.path with
  | true => rfl
  | false =>
      have hbeside := RouteTable.beside?.eq_def table r.path
      split at hbeside
      · next hknown =>
          simp only [hbeside, hknown, ↓reduceIte, Option.any_none, Bool.false_eq_true,
            Bool.or_false]
      · next hunknown =>
          split at hbeside
          · next hother => simp [hbeside, hunknown, hother]
          · next hother => simp [hbeside, hunknown, hother]

end Router

end Http

/-! ## Two turns -/

namespace Application

variable {app : Application} {moment : Moment} {r : Request}

/-- The response to a request that no entry answers. -/
def strayResponse (app : Application) (r : Request) : Response :=
  match app.table.beside? r.path with
  | some path => Router.pointing r path
  | none => ErrorBody.notFound

/-- A request that no entry answers, once it has arrived. -/
def strayed (app : Application) (moment : Moment) (r : Request) : Exchange :=
  match app.load (second moment.now) r with
  | none => (Exchange.ofRequest r).breakOff
  | some a =>
    if app.table.breaksAt r.path then (Exchange.welcomed r a).breakOff
    else (Exchange.welcomed r a).respond app (app.strayResponse r)

/-- What a request that no entry answers comes to. -/
def strayEnd (app : Application) (moment : Moment) (r : Request) : Stage :=
  if r.hasAddress then
    match app.load (second moment.now) r with
    | none => .done Exchange.canned true
    | some _ =>
      if app.table.breaksAt r.path then .done Exchange.canned true
      else .done (Cors.decorate app.settings.corsOrigins r (app.strayResponse r)) false
  else .lost

theorem strayed_settles (app : Application) (moment : Moment) (r : Request) :
    (Exchange.ofRequest r).Settles (app.strayed moment r) := by
  rw [strayed]
  split
  · exact Exchange.breakOff_settles _
  · split
    · exact ⟨rfl, rfl, rfl, rfl⟩
    · exact ⟨rfl, rfl, rfl, rfl⟩

theorem strayed_of_load_none (hload : app.load (second moment.now) r = none) :
    app.strayed moment r = (Exchange.ofRequest r).breakOff := by
  rw [strayed, hload]

theorem strayed_of_load_some {a : SessionCookie.Arrival}
    (hload : app.load (second moment.now) r = some a) :
    app.strayed moment r =
      if app.table.breaksAt r.path then (Exchange.welcomed r a).breakOff
      else (Exchange.welcomed r a).respond app (app.strayResponse r) := by
  rw [strayed, hload]

theorem along_of_canned {x : Exchange} (haddress : x.request.hasAddress = true)
    (hstage : x.stage = .done Exchange.canned true) (turns : List Turn) :
    (Exchange.along app turns x).stage = .done Exchange.canned true := by
  have hover : x.stage.isOver = true := by
    rw [hstage]
    rfl
  rw [Exchange.along_of_isOver _ hover fun _ _ _ => haddress, hstage]

/-- The second turn sends what the first one has made. -/
theorem along_strayed (haddress : r.hasAddress = true) (t : Turn) (more : List Turn) :
    (Exchange.along app (t :: more) (app.strayed moment r)).stage = app.strayEnd moment r := by
  rw [strayEnd, if_pos haddress]
  cases hload : app.load (second moment.now) r with
  | none =>
      rw [strayed_of_load_none hload,
        along_of_canned (x := (Exchange.ofRequest r).breakOff) haddress rfl]
  | some a =>
      rw [strayed_of_load_some hload]
      cases app.table.breaksAt r.path with
      | true =>
          rw [if_pos rfl, along_of_canned (x := (Exchange.welcomed r a).breakOff) haddress rfl]
          rfl
      | false =>
          obtain ⟨entries, hentries⟩ := SessionCookie.load_eq_ofEntries hload
          have hsession : ((Exchange.welcomed r a).respond app (app.strayResponse r)).session =
              .ofEntries entries := hentries
          rw [if_neg Bool.false_ne_true, Exchange.along_of_answered
            (x := (Exchange.welcomed r a).respond app (app.strayResponse r)) haddress rfl,
            Exchange.send, hsession, SessionCookie.save_ofEntries]
          rfl

section Undeclared

variable (hmount : (Router.mount app.table).result = .ok app.places)
  (hquestion : Cors.question? r = none) (hpage : Pages.answers r.method r.path = false)
  (hundeclared : ∀ e ∈ app.table, e.answers r.method r.path = false)

include hmount hquestion hpage hundeclared

theorem enter_of_undeclared {x : Exchange} (hrequest : x.request = r) :
    x.enter app =
      if app.table.breaksAt r.path then x.breakOff else x.respond app (app.strayResponse r) := by
  subst hrequest
  rw [Exchange.enter_eq_route hquestion, Exchange.route,
    Router.destination_of_undeclared hmount hpage hundeclared, strayResponse]
  cases app.table.breaksAt x.request.path with
  | true => rfl
  | false => cases app.table.beside? x.request.path <;> rfl

theorem meter_of_undeclared {x : Exchange} (hrequest : x.request = r) (moment : Moment)
    (st : Standing) :
    x.meter app moment st = (st,
      if app.table.breaksAt r.path then x.breakOff
      else x.respond app (app.strayResponse r)) := by
  have hstray : Router.answers app.places r.method r.path = false := by
    rw [Router.answers, hpage, Router.find?_of_undeclared hmount hundeclared]
    rfl
  have henter := enter_of_undeclared hmount hquestion hpage hundeclared hrequest
  subst hrequest
  cases huncountable : x.isUncountable app with
  | true =>
      have hbalks : Router.balksAt app.places x.request.path = true :=
        (Bool.and_eq_true_iff.mp huncountable).2
      rw [Router.balksAt_eq (Router.standsAt_mount hmount), ← RouteTable.balksAt] at hbalks
      rw [Exchange.meter_of_uncountable huncountable, RouteTable.breaksAt, hbalks, Bool.true_or,
        if_pos rfl]
  | false =>
      have hcounted : x.isCounted app = false := by rw [Exchange.isCounted, hstray, Bool.and_false]
      rw [Exchange.meter_of_stray huncountable hcounted, henter]

theorem arrive_of_undeclared (moment : Moment) (st : Standing) :
    (Exchange.ofRequest r).arrive app moment st = (st, app.strayed moment r) := by
  cases hload : app.load (second moment.now) r with
  | none => rw [Exchange.arrive_of_unread st hload, strayed_of_load_none hload]
  | some a =>
      rw [Exchange.arrive_of_read st hload, strayed_of_load_some hload]
      exact meter_of_undeclared hmount hquestion hpage hundeclared rfl moment st

theorem step_of_undeclared (moment : Moment) (st : Standing) :
    (Exchange.ofRequest r).Settles ((Exchange.ofRequest r).step app moment st).2 ∧
      ((Exchange.ofRequest r).step app moment st).1 = st ∧
      ((Exchange.ofRequest r).step app moment st).2 =
        if r.hasAddress then app.strayed moment r
        else { app.strayed moment r with stage := .lost, logs := [] } := by
  have hstep : (Exchange.ofRequest r).stepAddressed app moment st =
      (st, app.strayed moment r) :=
    arrive_of_undeclared hmount hquestion hpage hundeclared moment st
  have hnamed : Exchange.wasNamed (Exchange.ofRequest r) (app.strayed moment r) = true := by
    rw [strayed]
    split
    · rfl
    · split
      · rfl
      · rfl
  refine ⟨Exchange.step_settles_of_stepAddressed ?_, ?_⟩
  · rw [hstep]
    exact strayed_settles app moment r
  · have hrequest : (Exchange.ofRequest r).request = r := rfl
    simp only [Exchange.step, hstep, hnamed, hrequest, Bool.and_true]
    cases r.hasAddress with
    | true => exact ⟨rfl, rfl⟩
    | false => exact ⟨rfl, rfl⟩

theorem along_of_undeclared (t : Turn) (more : List Turn) :
    (Exchange.ofRequest r).Settles (Exchange.along app (t :: more) (.ofRequest r)) := by
  obtain ⟨hsettles, -⟩ := step_of_undeclared hmount hquestion hpage hundeclared t.moment t.standing
  rw [Exchange.along_cons]
  exact hsettles.trans (Exchange.along_settles _ more hsettles.behind)

/-- The request is over after two turns. -/
theorem along_eq_strayEnd (t t' : Turn) (more : List Turn) :
    (Exchange.along app (t :: t' :: more) (.ofRequest r)).stage = app.strayEnd t.moment r := by
  obtain ⟨-, -, hstep⟩ := step_of_undeclared hmount hquestion hpage hundeclared t.moment t.standing
  rw [Exchange.along_cons, hstep]
  cases haddress : r.hasAddress with
  | true => exact along_strayed haddress t' more
  | false =>
      rw [strayEnd, haddress, if_neg Bool.false_ne_true, if_neg Bool.false_ne_true,
        Exchange.along_of_isOver _ rfl fun _ _ hdone => by cases hdone]

theorem standing_of_undeclared (turns : List Turn) (moment : Moment) (st : Standing) :
    ((Exchange.along app turns (.ofRequest r)).step app moment st).1 = st := by
  cases turns with
  | nil => exact (step_of_undeclared hmount hquestion hpage hundeclared moment st).2.1
  | cons t more =>
      exact Exchange.step_standing_of_ne_arrived
        (Exchange.along_ne_arrived (List.cons_ne_nil t more) _) moment st

end Undeclared

/-- What is said where there is no route depends on the headers of a request only. -/
theorem strayEnd_congr {r' : Request} (hheaders : r'.headers = r.headers)
    (haddress : r'.hasAddress = r.hasAddress) (hbeside : app.table.beside? r.path = none)
    (hbeside' : app.table.beside? r'.path = none)
    (hbreaks : app.table.breaksAt r'.path = app.table.breaksAt r.path) (moment : Moment) :
    app.strayEnd moment r' = app.strayEnd moment r := by
  have hload : ∀ now, app.load now r' = app.load now r := by
    intro now
    simp only [load, SessionCookie.load, SessionCookie.cookie?, SessionCookie.cookies, hheaders]
  simp only [strayEnd, strayResponse, haddress, hload, hbeside, hbeside', hbreaks, Cors.decorate,
    Cors.origin?, hheaders]

theorem notFound_contentType :
    ErrorBody.notFound.headers.all "content-type" = ["text/plain; charset=utf-8"] := by
  rfl

/-- A request that no entry answers runs nothing and leaves the application standing as it
does, whatever else is served meanwhile. Two turns end it. Unless the path beside its own is
pointed out, or its address, its session or a number in its path cannot be read, it is told
that there is no route, and one such request with the headers of another is told the same. -/
theorem undeclared_ends (hmount : (Router.mount app.table).result = .ok app.places)
    (hquestion : Cors.question? r = none) (hpage : Pages.answers r.method r.path = false)
    (hundeclared : ∀ e ∈ app.table, e.answers r.method r.path = false) :
    (∀ turns : List Turn,
        (∀ m params, (Exchange.along app turns (.ofRequest r)).stage ≠ .routed m params) ∧
        (Exchange.along app turns (.ofRequest r)).verified = [] ∧
        (Exchange.along app turns (.ofRequest r)).calls = [] ∧
        ∀ moment st, ((Exchange.along app turns (.ofRequest r)).step app moment st).1 = st) ∧
      (∀ t t' more, (Exchange.along app (t :: t' :: more) (.ofRequest r)).stage =
        app.strayEnd t.moment r) ∧
      (app.table.beside? r.path = none → app.table.breaksAt r.path = false →
        r.hasAddress = true → ∀ t t' more,
        app.load (second t.moment.now) r ≠ none →
        ∃ response, (Exchange.along app (t :: t' :: more) (.ofRequest r)).stage =
            .done response false ∧ response.status = 404 ∧ response.body = "Not Found" ∧
          response.headers.all "content-type" = ["text/plain; charset=utf-8"]) ∧
      ∀ r' : Request, Cors.question? r' = none → Pages.answers r'.method r'.path = false →
        (∀ e ∈ app.table, e.answers r'.method r'.path = false) → r'.headers = r.headers →
        r'.hasAddress = r.hasAddress → app.table.beside? r.path = none →
        app.table.beside? r'.path = none →
        app.table.breaksAt r'.path = app.table.breaksAt r.path → ∀ t t' more,
        (Exchange.along app (t :: t' :: more) (.ofRequest r')).stage =
          (Exchange.along app (t :: t' :: more) (.ofRequest r)).stage := by
  have hend : ∀ t t' more, (Exchange.along app (t :: t' :: more) (.ofRequest r)).stage =
      app.strayEnd t.moment r := along_eq_strayEnd hmount hquestion hpage hundeclared
  refine ⟨?_, hend, ?_, ?_⟩
  · intro turns
    have hstanding : ∀ moment st,
        ((Exchange.along app turns (.ofRequest r)).step app moment st).1 = st :=
      standing_of_undeclared hmount hquestion hpage hundeclared turns
    cases turns with
    | nil => exact ⟨nofun, rfl, rfl, hstanding⟩
    | cons t more =>
        have hsettles := along_of_undeclared hmount hquestion hpage hundeclared t more
        refine ⟨?_, hsettles.verified, hsettles.calls, hstanding⟩
        intro m params hstage
        have hbehind := hsettles.behind
        rw [hstage] at hbehind
        cases hbehind
  · intro hbeside hbreaks haddress t t' more hload
    obtain ⟨a, ha⟩ := Option.ne_none_iff_exists'.mp hload
    refine ⟨Cors.decorate app.settings.corsOrigins r ErrorBody.notFound, ?_, rfl, rfl, ?_⟩
    · rw [hend, strayEnd, if_pos haddress, ha, strayResponse, hbeside, hbreaks]
      rfl
    · rw [Cors.all_decorate (by decide) (by decide) (by decide), notFound_contentType]
  · intro r' hquestion' hpage' hundeclared' hheaders haddress hbeside hbeside' hbreaks t t' more
    rw [hend, along_eq_strayEnd hmount hquestion' hpage' hundeclared',
      strayEnd_congr hheaders haddress hbeside hbeside' hbreaks]

/-- Asking for a path of which nothing is known, and asking to delete at one that is known. -/
theorem shadowed_tells_nothing :
    (Router.mount shadowed.table).result = .ok shadowed.places ∧
      Cors.question? (asking "/api/v1/y") = none ∧ Pages.answers "GET" "/api/v1/y" = false ∧
      (∀ e ∈ shadowed.table, e.answers "GET" "/api/v1/y" = false) ∧
      shadowed.table.hasPath "/api/v1/y" = false ∧ shadowed.table.hasPath "/api/v1/x" = true ∧
      ∀ t t' more, ∃ response,
        (Exchange.along shadowed (t :: t' :: more) (.ofRequest (asking "/api/v1/y"))).stage =
            .done response false ∧
          (Exchange.along shadowed (t :: t' :: more)
            (.ofRequest { asking "/api/v1/x" with method := "DELETE" })).stage =
            .done response false ∧
          response.status = 404 ∧ response.body = "Not Found" := by
  have hundeclared : ∀ e ∈ shadowed.table, e.answers "GET" "/api/v1/y" = false := by
    decide +kernel
  have hundeclared' : ∀ e ∈ shadowed.table, e.answers "DELETE" "/api/v1/x" = false := by
    decide
  have hbeside : shadowed.table.beside? "/api/v1/y" = none := by decide +kernel
  have hpath : shadowed.table.hasPath "/api/v1/x" = true := by decide +kernel
  refine ⟨mount_shadowed, rfl, rfl, hundeclared, by decide +kernel, hpath, fun t t' more => ?_⟩
  obtain ⟨-, -, htold, hsame⟩ := undeclared_ends (r := asking "/api/v1/y") mount_shadowed rfl rfl
    hundeclared
  have hbreaks : shadowed.table.breaksAt "/api/v1/y" = false := by decide +kernel
  have hbreaks' : shadowed.table.breaksAt "/api/v1/x" = false := by decide +kernel
  obtain ⟨response, hstage, hstatus, hbody, -⟩ := htold hbeside hbreaks rfl t t' more
    (by rw [load_asking]; exact nofun)
  refine ⟨response, hstage, ?_, hstatus, hbody⟩
  rw [← hstage]
  exact hsame { asking "/api/v1/x" with method := "DELETE" } rfl rfl hundeclared' rfl rfl hbeside
    (RouteTable.beside?_of_hasPath hpath) (hbreaks'.trans hbreaks.symm) t t' more

/-- A path with two slashes at its end is no entry's, and whoever asks for it is pointed to
the path without them. -/
theorem two_slashes_pointed :
    (create { rateLimitEnabled := false } (some fun _ _ => .ok .invalid) .bare
        (.list (shadowing.map .tree))).result = .ok shadowed ∧
      Cors.question? (asking "/api/v1/x//") = none ∧
      Pages.answers "GET" "/api/v1/x//" = false ∧
      (∀ e ∈ shadowed.table, e.answers "GET" "/api/v1/x//" = false) ∧
      ∀ t t' more, ∃ response,
        (Exchange.along shadowed (t :: t' :: more) (.ofRequest (asking "/api/v1/x//"))).stage =
            .done response false ∧
          response.status = 307 ∧ response.headers.all "location" = ["/api/v1/x"] ∧
          response.body = "" := by
  have hundeclared : ∀ e ∈ shadowed.table, e.answers "GET" "/api/v1/x//" = false := by
    decide +kernel
  have hbeside : shadowed.table.beside? "/api/v1/x//" = some "/api/v1/x" := by decide +kernel
  have hbreaks : shadowed.table.breaksAt "/api/v1/x//" = false := by decide +kernel
  refine ⟨create_shadowed, rfl, rfl, hundeclared, fun t t' more => ?_⟩
  refine ⟨Cors.decorate shadowed.settings.corsOrigins (asking "/api/v1/x//")
    (Router.pointing (asking "/api/v1/x//") "/api/v1/x"), ?_, rfl, ?_, rfl⟩
  · rw [along_eq_strayEnd (r := asking "/api/v1/x//") mount_shadowed rfl rfl hundeclared,
      strayEnd, load_asking, strayResponse,
      show (asking "/api/v1/x//").path = "/api/v1/x//" from rfl, hbeside, hbreaks]
    rfl
  · rw [Cors.all_decorate (by decide) (by decide) (by decide)]
    rfl

end Application

end Gatehouse
