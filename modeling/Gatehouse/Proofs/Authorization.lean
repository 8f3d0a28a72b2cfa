import Gatehouse.Proofs.Declarations
import Gatehouse.Proofs.Dispatch
import Gatehouse.Views

/-!
# Who reaches a handler

What a declaration says about access and roles decides who reaches the handlers of its
node, whatever lies in between: the rules are read, settled for each verb, carried into
the table, mounted and asked again by the gate at every request. That a routed request
is let pass as its node declares is put together of three parts: what the gate decides by
a policy, what a policy has to do with the node that declares it, and what is run for a
request on which the gate has decided.
-/

namespace Gatehouse

/-! ## What the gate decides -/

namespace Gate

/-- Whether a request shows a token: its session has one, or there is none in the session
and the first header for it has one behind the mark. -/
def Shows (session : Session) (headers : Http.Headers) (token : Datum) : Prop :=
  token.isFilledText = true ∧
    (session.get? Session.tokenKey = some token ∨
      ((∀ v, session.get? Session.tokenKey = some v → v.isFilledText = false) ∧
        ∃ text, token = .str text ∧
          headers.first? "authorization" = some ("Bearer " ++ text)))

theorem sessionToken?_eq_some_iff {session : Session} {token : Datum} :
    session.token? = some token ↔
      token.isFilledText = true ∧ session.get? Session.tokenKey = some token := by
  rw [Session.token?, Option.filter_eq_some_iff, and_comm]

theorem sessionToken?_eq_none_iff {session : Session} :
    session.token? = none ↔
      ∀ v, session.get? Session.tokenKey = some v → v.isFilledText = false := by
  simp only [Session.token?, Option.filter_eq_none_iff, Bool.not_eq_true]

theorem isFilledText_str_iff {text : String} :
    (Value.str text : Datum).isFilledText = true ↔ text ≠ "" := by
  simp [Value.isFilledText]

theorem headerToken?_eq_some_iff {headers : Http.Headers} {token : String} :
    headerToken? headers = some token ↔
      token ≠ "" ∧ headers.first? "authorization" = some ("Bearer " ++ token) := by
  rw [headerToken?]
  cases hfirst : headers.first? "authorization" with
  | none =>
      have hmark : bearerMark.isPrefixOf "".toList = false := by decide
      simp only [Option.getD_none, hmark, Bool.false_eq_true, ↓reduceIte, reduceCtorEq, and_false]
  | some value =>
      have hbehind : value = "Bearer " ++ token ↔ value.toList = bearerMark ++ token.toList := by
        rw [← String.toList_inj, String.toList_append]
        exact Iff.rfl
      simp only [Option.getD_some, Option.some.injEq, hbehind]
      split
      · next hmark =>
          obtain ⟨rest, hrest⟩ := List.isPrefixOf_iff_prefix.mp hmark
          rw [← hrest, List.drop_left, List.append_cancel_left_eq]
          split
          · next hempty =>
              rw [List.isEmpty_iff.mp hempty]
              simp
          · next hempty =>
              simp only [Option.some.injEq]
              constructor
              · rintro rfl
                rw [String.toList_ofList]
                refine ⟨fun h => hempty ?_, rfl⟩
                rw [List.isEmpty_iff, ← String.toList_ofList (l := rest), h]
                rfl
              · rintro ⟨-, h⟩
                rw [h, String.ofList_toList]
      · next hmark =>
          constructor
          · intro h
            cases h
          · rintro ⟨-, h⟩
            exact absurd (List.isPrefixOf_iff_prefix.mpr ⟨token.toList, h.symm⟩) hmark

theorem token?_eq_some_iff {session : Session} {headers : Http.Headers} {token : Datum} :
    token? (some session) headers = some token ↔ Shows session headers token := by
  rw [token?, Option.bind_some, Shows]
  cases hsession : session.token? with
  | none =>
      have hnone := sessionToken?_eq_none_iff.mp hsession
      simp only [Option.none_or, Option.map_eq_some_iff, headerToken?_eq_some_iff]
      constructor
      · rintro ⟨text, ⟨hne, hheader⟩, rfl⟩
        exact ⟨isFilledText_str_iff.mpr hne, Or.inr ⟨hnone, text, rfl, hheader⟩⟩
      · rintro ⟨hfilled, hget | ⟨-, text, rfl, hheader⟩⟩
        · rw [hnone token hget] at hfilled
          cases hfilled
        · exact ⟨text, ⟨isFilledText_str_iff.mp hfilled, hheader⟩, rfl⟩
  | some t =>
      obtain ⟨hfilled, hget⟩ := sessionToken?_eq_some_iff.mp hsession
      rw [Option.some_or, Option.some.injEq]
      constructor
      · rintro rfl
        exact ⟨hfilled, Or.inl hget⟩
      · rintro ⟨-, hget' | ⟨hnone, -⟩⟩
        · exact Option.some.inj (hget.symm.trans hget')
        · rw [hnone t hget] at hfilled
          cases hfilled

variable {policy : Policy} {verify : Verifier} {r : Http.Request} {session : Session}

theorem accepts_iff {names : List String} {role : Json} :
    accepts names role = true ↔ ∃ name ∈ names, role = .str name := by
  cases role with
  | str name => simp [accepts]
  | _ => simp [accepts]

theorem grant_fst_iff {roles : Option (List String)} {i : Identity} {id : Option Identity} :
    (grant r roles i).1 = .proceed id ↔
      (∀ names, roles = some names → ∃ name ∈ names, i.role = .str name) ∧ id = some i := by
  cases roles with
  | none =>
      rw [grant, Outcome.proceed.injEq]
      simp [eq_comm]
  | some names =>
      rw [grant]
      simp only [Option.some.injEq, forall_eq', ← accepts_iff]
      split
      · next haccepts => simp [haccepts, eq_comm]
      · next haccepts => simp [haccepts]

theorem ne_str_of_unfitRole? {roles : Option (List String)} {role : Json} {typeName : String}
    (h : unfitRole? roles role = some typeName) :
    ∃ names, roles = some names ∧ ∀ name, role ≠ .str name := by
  cases roles with
  | none => cases h
  | some names =>
      refine ⟨names, rfl, ?_⟩
      rintro name rfl
      have hfit : unfitRole? (some names) (.str name) = none := rfl
      rw [hfit] at h
      cases h

theorem settle_outcome_iff {roles : Option (List String)} {s : Option Session} {token : Datum}
    {verdict : Except Failure Verdict} {id : Option Identity} :
    (settle r roles s token verdict).outcome = .ok (.proceed id) ↔
      ∃ i, verdict = .ok (.accepted i) ∧
        (∀ names, roles = some names → ∃ name ∈ names, i.role = .str name) ∧ id = some i := by
  cases verdict with
  | error f => simp [settle]
  | ok verdict =>
      cases verdict with
      | expired => simp [settle]
      | invalid => simp [settle]
      | accepted i =>
          simp only [settle, Except.ok.injEq, Verdict.accepted.injEq, exists_eq_left']
          split
          · next typeName hunfit =>
              obtain ⟨names, rfl, hother⟩ := ne_str_of_unfitRole? hunfit
              constructor
              · intro h
                cases h
              · rintro ⟨hadmits, -⟩
                obtain ⟨name, -, hname⟩ := hadmits names rfl
                exact absurd hname (hother name)
          · rw [Except.ok.injEq, grant_fst_iff]

/-- The gate lets a request pass if the route is open, or else for the identity of a token
that the verifier accepts, if the policy admits its role. -/
theorem check_outcome_iff {id : Option Identity} :
    (check policy verify r (some session)).outcome = .ok (.proceed id) ↔
      (policy.isPublic = true ∧ id = none) ∨
        (policy.isPublic ≠ true ∧ ∃ token i, Shows session r.headers token ∧
          verify token = .ok (.accepted i) ∧ policy.Admits i.role ∧ id = some i) := by
  rw [check, approach]
  by_cases hpublic : policy.isPublic = true
  · simp [hpublic, eq_comm]
  · simp only [hpublic, Bool.false_eq_true, ↓reduceIte, false_and, false_or, ne_eq,
      not_false_eq_true, true_and]
    cases htoken : token? (some session) r.headers with
    | none =>
        simp only [Except.ok.injEq, reduceCtorEq, false_iff]
        rintro ⟨token, i, hshows, -⟩
        rw [← token?_eq_some_iff, htoken] at hshows
        cases hshows
    | some token =>
        rw [settle_outcome_iff]
        constructor
        · rintro ⟨i, hverdict, hadmits, hid⟩
          exact ⟨token, i, token?_eq_some_iff.mp htoken, hverdict, hadmits, hid⟩
        · rintro ⟨token', i, hshows, hverdict, hadmits, hid⟩
          rw [← token?_eq_some_iff, htoken] at hshows
          injection hshows with hsame
          subst hsame
          exact ⟨i, hverdict, hadmits, hid⟩

theorem check_verified_of_isPublic (h : policy.isPublic = true) :
    (check policy verify r (some session)).verified = [] := by
  simp only [check, approach, h, ↓reduceIte]

end Gate

/-! ## From the declaration to the handler -/

/-- Whether a node lets a request pass to the handler of a verb, and as whom: as nobody
if the verb is open, or else as the identity that the verifier makes of the token that
the request shows, if the node admits its role. -/
def Value.LetsPass {κ : Type} (node : Value κ) (verb : String) (verify : Gate.Verifier)
    (session : Session) (headers : Http.Headers) (id : Option Identity) : Prop :=
  (node.Opens verb ∧ id = Option.none) ∨
    (¬ node.Opens verb ∧ ∃ token i, Gate.Shows session headers token ∧
      verify token = .ok (.accepted i) ∧ node.Admits verb i.role ∧ id = some i)

namespace Exchange

variable {app : Application} {moment : Moment} {st : Standing} {r : Http.Request}
  {session : Session} {e : RouteEntry Handler}

/-- The handler of `e` is run for a request, once and as the only one, and is given the
identity `id`. -/
structure Hands (app : Application) (moment : Moment) (st : Standing) (r : Http.Request)
    (e : RouteEntry Handler) (id : Option Identity) : Prop where
  calls : (serve app moment st r).2.calls = [(e.handler.name, id)]
  at_work : ∃ n params, n ≤ enough app ∧ (after app moment st r n).stage =
    .handling ⟨r, params, id⟩ e.handler.acts (.value .none)

theorem RunsEndpoint.hands_iff (h : RunsEndpoint app moment st r session e)
    (id : Option Identity) : Hands app moment st r e id ↔
      (Gate.check e.policy (app.verifier moment.now) r (some session)).outcome =
        .ok (.proceed id) := by
  constructor
  · intro hhands
    have hcalls := h.calls
    rw [hhands.calls, Gate.Decision.calls] at hcalls
    split at hcalls
    · next i hi =>
        injection hcalls with hcall
        injection hcall with _ hid
        rw [hi, hid]
    · cases hcalls
  · intro hproceed
    refine ⟨?_, h.handed id hproceed⟩
    rw [h.calls, Gate.Decision.calls, hproceed]

theorem RunsEndpoint.calls_eq_nil (h : RunsEndpoint app moment st r session e)
    (hnone : ∀ id, ¬ Hands app moment st r e id) : (serve app moment st r).2.calls = [] := by
  rw [h.calls, Gate.Decision.calls]
  split
  · next id hid => exact absurd ((h.hands_iff id).mpr hid) (hnone id)
  · rfl

theorem exists_load_of_routed {m : Http.Mounted Handler} {params : List (String × Datum)}
    (hfree : app.settings.rateLimitEnabled = false) (hquestion : Http.Cors.question? r = none)
    (hrouted : (after app moment st r 1).stage = .routed m params) :
    ∃ a, app.load (Application.second moment.now) r = some a ∧
      Http.Router.destination app.places r = .place m params := by
  have hfront : ¬ (ofRequest r).Settles (after app moment st r 1) := by
    intro hsettles
    have hbehind := hsettles.behind
    rw [hrouted] at hbehind
    cases hbehind
  cases hload : app.load (Application.second moment.now) r with
  | none => exact absurd (step_settles_of_load_none st hload) hfront
  | some a =>
      refine ⟨a, rfl, ?_⟩
      by_cases hplace : ∃ m' params', Http.Router.destination app.places r = .place m' params'
      · obtain ⟨m', params', hplace⟩ := hplace
        have hstage : (after app moment st r 1).stage = .routed m' params' :=
          congrArg (fun p => p.2.stage) (step_routed st hfree hquestion hload hplace)
        rw [hrouted] at hstage
        injection hstage with hm hparams
        rw [hplace, hm, hparams]
      · have hastray : ∀ m params, Http.Router.destination app.places r ≠ .place m params :=
          fun m' params' h => hplace ⟨m', params', h⟩
        exact absurd (step_settles_of_astray st hfree hquestion hload hastray) hfront

end Exchange

namespace Application

/-- What a node declares about one of its verbs is what happens to a request that is
routed to the entry of the verb. -/
structure Obeys (app : Application) (moment : Moment) (st : Standing) (r : Http.Request)
    (verify : Gate.Verifier) (session : Session) (e : RouteEntry Handler)
    (node : Value Handler) : Prop where
  offers : node.Offers e.verb e.handler
  hands_iff : ∀ id, Exchange.Hands app moment st r e id ↔
    node.LetsPass e.verb verify session r.headers id
  calls_eq_nil : (∀ id, ¬ node.LetsPass e.verb verify session r.headers id) →
    (Exchange.serve app moment st r).2.calls = []
  verified_eq_nil : node.Opens e.verb → (Exchange.serve app moment st r).2.verified = []

/-- A request that is routed is routed to the first entry that answers it, and the
handler of the entry is run just for those whom the node lets pass at which the entry is
declared. -/
theorem routed_obeys {settings : Settings} {verifier : Option (Int → Gate.Verifier)}
    {framework : Framework} {roots : List (Value Handler)} {app : Application} {r : Http.Request}
    {moment : Moment} {st : Standing} {m : Http.Mounted Handler} {params : List (String × Datum)}
    (hcreate : (create settings verifier framework (.list roots)).result = .ok app)
    (hfree : settings.rateLimitEnabled = false) (hquestion : Http.Cors.question? r = none)
    (hrouted : (Exchange.after app moment st r 1).stage = .routed m params) :
    ∃ k a, app.table.findIdx? (·.answers r.method r.path) = some k ∧
      app.table[k]? = some m.entry ∧
      Http.SessionCookie.load framework.depth settings.secretKey (second moment.now) r = some a ∧
      (∃ node, RouteTable.DeclaredAt (compileOptions settings) roots app.table k node) ∧
      ∀ node, RouteTable.DeclaredAt (compileOptions settings) roots app.table k node →
        Obeys app moment st r
          (verifier.getD (tokenVerifier (tokenConfig framework.tokens settings)) moment.now)
          a.session m.entry node := by
  obtain ⟨hcompile, -, hmount, rfl, hverifier, rfl⟩ := create_result_eq_ok_iff.mp hcreate
  obtain ⟨a, hload, hplace⟩ := Exchange.exists_load_of_routed hfree hquestion hrouted
  have hruns := Exchange.runsEndpoint_of_place st hfree hquestion hload hplace
  have hfind : (app.table.find? fun e => e.answers r.method r.path) = some m.entry := by
    rw [← Http.Router.answering?_mount hmount]
    exact Http.Router.answering?_of_destination hplace
  rw [List.find?_eq_bind_findIdx?_getElem?, Option.bind_eq_some_iff] at hfind
  obtain ⟨k, hk, hentry⟩ := hfind
  refine ⟨k, a, hk, hentry, hload, RouteTable.exists_declaredAt hcompile hentry, ?_⟩
  intro node hdeclared
  obtain ⟨hoffers, hopens, hadmits⟩ := hdeclared.describes hentry
  have hiff : ∀ id, Exchange.Hands app moment st r m.entry id ↔
      node.LetsPass m.entry.verb (app.verifier moment.now) a.session r.headers id := by
    intro id
    rw [hruns.hands_iff, Gate.check_outcome_iff, Value.LetsPass, ne_eq, hopens]
    refine or_congr_right (and_congr_right fun hclosed => ?_)
    simp only [hadmits hclosed]
  rw [hverifier] at hiff
  refine ⟨hoffers, hiff, fun hnobody => ?_, fun hopen => ?_⟩
  · exact hruns.calls_eq_nil fun id hhands => hnobody id ((hiff id).mp hhands)
  · rw [hruns.verified]
    exact Gate.check_verified_of_isPublic (hopens.mpr hopen)

/-! ## A guarded route

One root with one verb, which only administrators may use; keys and verb are spelled in
different ways. -/

def guardedRoot : Value Handler :=
  Views.node
    [("url", .str "/x"), ("methods", Views.node [("GET", .callable (.naming "guarded"))]),
      ("roles", Views.node [("Get", .list [.str "admin"])])]

def guardedTree : RouteTree Handler :=
  ⟨some "/x", none, [("get", .naming "guarded")], .identified, .perVerb [("get", ["admin"])], []⟩

def guardedEntry : RouteEntry Handler :=
  ⟨"/api/v1/x", "get", ⟨false, some ["admin"]⟩, .naming "guarded"⟩

def administrator : Identity := ⟨.str "ann", .str "admin"⟩

/-- The application of the root; every token is that of the administrator. -/
def guarded : Application :=
  ⟨{ rateLimitEnabled := false }, fun _ _ => .ok (.accepted administrator), .bare,
    [guardedEntry], (Http.Router.mount [guardedEntry]).result.toOption.getD []⟩

/-- A request that shows a token in its header. -/
def knocking : Http.Request :=
  ⟨"GET", "/api/v1/x", "", [("authorization", "Bearer key")], "", none, none⟩

theorem read_guardedRoot : RouteTree.read guardedRoot = .ok guardedTree := by
  simp only [guardedRoot, Views.node, List.map, RouteTree.read]
  simp only [RouteTree.readChildrenField_eq, RouteTree.field_cons, Value.same_str_str,
    RouteTree.assemble]
  rfl

theorem guarded_no_brace : ∀ e ∈ guarded.table, '{' ∉ e.path.toList := by decide

theorem mount_guarded : (Http.Router.mount guarded.table).result = .ok guarded.places :=
  Http.Router.mount_result_of_no_brace guarded_no_brace

theorem create_guarded :
    (create { rateLimitEnabled := false } (some fun _ _ => .ok (.accepted administrator)) .bare
      (.list [guardedRoot])).result = .ok guarded := by
  refine create_result_eq_ok_iff.mpr ⟨?_, rfl, mount_guarded, rfl, rfl, rfl⟩
  simp only [RouteTable.compile, Value.items?, RouteTable.compileRoots, RouteTable.runRoots,
    RouteTable.runRoot, read_guardedRoot]
  rfl

theorem guarded_answers : guardedEntry.answers "GET" "/api/v1/x" = true :=
  (RouteEntry.answers_iff_clashes (by decide) guardedEntry).mpr guardedEntry.clashes_self

theorem guarded_declaredAt :
    RouteTable.DeclaredAt (compileOptions { rateLimitEnabled := false }) [guardedRoot]
      guarded.table 0 guardedRoot := by
  have hlaid : LaidOut (compileOptions { rateLimitEnabled := false }) [guardedTree] [⟨[0], 0⟩]
      guarded.table := RouteTable.laidOut_rootEntries _ [guardedTree]
  exact RouteTable.DeclaredAt.intro (List.Forall₂.cons read_guardedRoot List.Forall₂.nil) hlaid
    rfl rfl (Value.Descends.here guardedRoot)

theorem guarded_letsPass (now : Int) :
    guardedRoot.LetsPass "get" (guarded.verifier now) (.ofEntries []) knocking.headers
      (some administrator) := by
  refine Or.inr ⟨?_, .str "key", administrator, ⟨by decide, Or.inr ⟨?_, "key", rfl, rfl⟩⟩, rfl,
    ?_, rfl⟩
  · simp only [guardedRoot, Views.node, List.map, Value.Opens, RouteTree.field_cons,
      Value.same_str_str]
    exact id
  · intro v hv
    cases hv
  · simp only [guardedRoot, Views.node, List.map, Value.Admits, RouteTree.field_cons,
      Value.same_str_str]
    rintro roles ⟨⟩
    exact ⟨[.str "admin"], rfl, .str "admin", List.mem_cons_self, rfl⟩

theorem guarded_hands :
    (create { rateLimitEnabled := false } (some fun _ _ => .ok (.accepted administrator)) .bare
        (.list [guardedRoot])).result = .ok guarded ∧
      Http.Cors.question? knocking = none ∧
      ∀ moment st,
        (∃ m params, (Exchange.after guarded moment st knocking 1).stage = .routed m params ∧
          m.entry = guardedEntry) ∧
        Exchange.Hands guarded moment st knocking guardedEntry (some administrator) := by
  refine ⟨create_guarded, rfl, fun moment st => ?_⟩
  have hload : guarded.load (second moment.now) knocking = some ⟨.ofEntries [], false⟩ := rfl
  have hruns : Exchange.RunsEndpoint guarded moment st knocking (.ofEntries []) guardedEntry :=
    runsEndpoint_of_find? (r := knocking) mount_guarded rfl rfl rfl
      (Http.Router.stumbles_of_not_balksAt
        (Http.Router.not_balksAt_of_no_brace mount_guarded guarded_no_brace _) _)
      hload (List.find?_cons_of_pos guarded_answers)
  obtain ⟨m, params, hentry, hrouted⟩ := hruns.routed
  refine ⟨⟨m, params, hrouted, hentry⟩, ?_⟩
  obtain ⟨k, a, hk, -, hload', -, hobeys⟩ := routed_obeys create_guarded rfl rfl hrouted
  have hfirst : guarded.table.findIdx? (fun e => e.answers "GET" "/api/v1/x") = some 0 :=
    List.findIdx?_cons.trans (if_pos guarded_answers)
  obtain rfl : 0 = k := Option.some.inj (hfirst.symm.trans hk)
  obtain rfl : ⟨.ofEntries [], false⟩ = a := Option.some.inj (hload.symm.trans hload')
  have hhands := (hobeys guardedRoot guarded_declaredAt).hands_iff (some administrator)
  rw [hentry] at hhands
  exact hhands.mpr (guarded_letsPass moment.now)

end Application

end Gatehouse
