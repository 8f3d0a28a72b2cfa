import Gatehouse.Proofs.Confidentiality

/-!
# How a request fares in a turn

In one turn a request goes on without a response, or is answered, or breaks off, or its
response is sent; after that it rests. `Fares` tells these apart, and with each of them goes
what an outsider learns of it: who worded the response (`Wording`), what it was that broke
(`BreaksOff`), and whether the access log got a line. The stages differ in what they do on
the way; they all end in the same few functions, so there is one lemma for each of these,
and the stages are read off them.

What holds of a run is then a matter of the turns that it consists of. `AtSomeTurn` says that
there is one among them at which something happens.
-/

namespace Gatehouse

open Http

/-! ## The access log -/

/-- The records of the access log. -/
def accessRecords (logs : List LogEntry) : List LogEntry :=
  logs.filter (·.logger = "routeforge.api")

theorem accessRecords_append (logs more : List LogEntry) :
    accessRecords (logs ++ more) = accessRecords logs ++ accessRecords more :=
  List.filter_append logs more

/-- Another part of the program writes no line of it. -/
theorem accessRecords_of_ne {logger : String} {level : LogLevel} {message : String}
    (h : logger ≠ "routeforge.api") : accessRecords [⟨logger, level, message⟩] = [] := by
  simp [accessRecords, h]

theorem Act.accessRecords_run (a : Act) (visit : Visit) (around : Surroundings) (last : Reply)
    (session : Session) : accessRecords (a.run visit around last session).logs = [] :=
  List.filter_eq_nil_iff.mpr fun l hl => by
    rw [Act.eq_of_mem_logs_run hl]
    decide

theorem Gate.accessRecords_approach {policy : Policy} {r : Request} {s : Option Session}
    {d : Gate.Decision} (h : Gate.approach policy r s = .decided d) :
    accessRecords d.logs = [] := by
  rw [Gate.approach] at h
  split at h
  · injection h with h
    rw [← h]
    rfl
  · simp only [] at h
    split at h
    · injection h with h
      rw [← h]
      exact accessRecords_of_ne (by decide)
    · cases h

theorem Gate.accessRecords_grant (r : Request) (roles : Option (List String)) (i : Identity) :
    accessRecords (Gate.grant r roles i).2 = [] := by
  rw [Gate.grant.eq_def]
  split
  · rfl
  · split
    · rfl
    · exact accessRecords_of_ne (by decide)

theorem Gate.accessRecords_settle (r : Request) (roles : Option (List String))
    (s : Option Session) (token : Datum) (verdict : Except Failure Verdict) :
    accessRecords (Gate.settle r roles s token verdict).logs = [] := by
  rw [Gate.settle.eq_def]
  split
  · rfl
  · exact accessRecords_of_ne (by decide)
  · exact accessRecords_of_ne (by decide)
  · split
    · rfl
    · exact Gate.accessRecords_grant r roles _

theorem accessRecords_apiErrorLogs (r : Request) (e : ApiError) :
    accessRecords (ErrorBody.apiErrorLogs r e) = [] := by
  rw [ErrorBody.apiErrorLogs]
  split
  · rfl
  · exact accessRecords_of_ne (by decide)

/-- Whether a failure of the verifier is none that a client can be told about. -/
def Failure.isUntold : Failure → Bool
  | .api _ => false
  | .status code detail headers => (ErrorBody.ofStatus? code detail headers).isNone
  | .limited _ _ => false
  | .fault f => (ErrorBody.ofFault? f).isNone

namespace Exchange

variable {app : Application} {t : Turn} {x y z : Exchange} {r : Request}

/-! ## What may come of a turn -/

/-- Something breaks with this turn that is no matter of the handler: in front of the gate,
at it, or when the handler is done. -/
inductive BreaksOff (app : Application) (t : Turn) (x : Exchange) : Prop
  /-- The session cannot be read. -/
  | reading (hstage : x.stage = .arrived)
      (hload : app.load (Application.second t.moment.now) x.request = none)
  /-- There are limits, and some place finds a number in the path that cannot be read. -/
  | searching (hstage : x.stage = .arrived) (huncountable : x.isUncountable app = true)
  /-- The search for a route comes to a number that cannot be read. -/
  | finding (hstage : x.stage = .arrived) (hquestion : Cors.question? x.request = none)
      (hunreadable : Router.destination app.places x.request = .unreadable)
  /-- The request is to be counted, and the limits of the settings are none. -/
  | limits (hstage : x.stage = .arrived) (hcounted : x.isCounted app = true)
      (hparse : RateLimit.parse? app.settings.rateLimit = none)
  /-- The request is to be counted, and the window that it opens has no end. -/
  | counting {limits : List RateLimit.Limit} (hstage : x.stage = .arrived)
      (hcounted : x.isCounted app = true)
      (hparse : RateLimit.parse? app.settings.rateLimit = some limits)
      (htally : (RateLimit.hitAll t.moment.fine t.moment.now (RateLimit.clientOf x.request)
        x.request.path limits t.standing.windows).1 = .broken)
  /-- The verifier fails on the token. -/
  | judging {m : Mounted Handler} {params : List (String × Datum)} {token : Datum}
      {f : Failure} (hstage : x.stage = .showing m params token)
      (hverdict : app.verifier t.moment.now token = .error f) (huntold : f.isUntold = true)
  /-- The token is accepted for a role that cannot be looked up. -/
  | matching {m : Mounted Handler} {params : List (String × Datum)} {token : Datum}
      {i : Identity} {typeName : String} (hstage : x.stage = .showing m params token)
      (hverdict : app.verifier t.moment.now token = .ok (.accepted i))
      (hunfit : Gate.unfitRole? m.entry.policy.roles i.role = some typeName)
  /-- The handler fails with a status that cannot be sent. -/
  | failing {visit : Visit} {a : Act} {rest : List Act} {last : Reply} {code : Int}
      {detail : Datum} {headers : List (String × String)}
      (hstage : x.stage = .handling visit (a :: rest) last)
      (hreply : (a.run visit (x.around app t.moment t.standing) last x.session).reply =
        .error (.status code detail headers))
      (huntold : ErrorBody.ofStatus? code detail headers = none)
  /-- What the handler gave back cannot be written down. -/
  | encoding {visit : Visit} {v : Datum} {e : Value.NotJson}
      (hstage : x.stage = .handling visit [] (.value v)) (hjson : Payload.json v = .error e)
  /-- The session cannot be sent. -/
  | sending {response : Response} (hstage : x.stage = .answered response)
      (hsession : x.session.isSendable = false)

/-- The response that a turn makes, by who words it. -/
inductive Wording (app : Application) (t : Turn) (x : Exchange) : Response → Prop
  /-- The question of a browser is answered. -/
  | question {origin method : String} (hstage : x.stage = .arrived)
      (hquestion : Cors.question? x.request = some (origin, method)) :
      Wording app t x (Cors.answer app.settings.corsOrigins x.request origin method)
  /-- A limit is exceeded. -/
  | limiter : Wording app t x RateLimit.refusal
  /-- The request is one for a page about the service. -/
  | page :
      Wording app t x
        (Cors.decorate app.settings.corsOrigins x.request (app.framework.pages.answer x.request))
  /-- Another path is pointed out. -/
  | pointing (path : String) :
      Wording app t x
        (Cors.decorate app.settings.corsOrigins x.request (Router.pointing x.request path))
  /-- There is no route. -/
  | nowhere : Wording app t x (Cors.decorate app.settings.corsOrigins x.request ErrorBody.notFound)
  /-- The client is told about an error. -/
  | error (e : ApiError) :
      Wording app t x (Cors.decorate app.settings.corsOrigins x.request (ErrorBody.ofApiError e))
  /-- The client is told about a failure with a status of its own. -/
  | status {code : Int} {detail : Datum} {headers : List (String × String)}
      {given : Response} (htold : ErrorBody.ofStatus? code detail headers = some given) :
      Wording app t x (Cors.decorate app.settings.corsOrigins x.request given)
  /-- The client is told about a limit that the verifier or the handler found exceeded. -/
  | limited (seconds : Int) :
      Wording app t x
        (Cors.decorate app.settings.corsOrigins x.request (RateLimit.refusalFor seconds))
  /-- The verifier fails with an error that the framework has a response of its own for. -/
  | invalid {m : Mounted Handler} {params : List (String × Datum)} {token : Datum} {f : Fault}
      {given : Response} (hstage : x.stage = .showing m params token)
      (hverdict : app.verifier t.moment.now token = .error (.fault f))
      (htold : ErrorBody.ofFault? f = some given) :
      Wording app t x (Cors.decorate app.settings.corsOrigins x.request given)
  /-- The handler gave back a response of its own. -/
  | own {visit : Visit} {given : Response}
      (hstage : x.stage = .handling visit [] (.response given)) :
      Wording app t x (Cors.decorate app.settings.corsOrigins x.request given)
  /-- The handler gave back nothing. -/
  | nothing {visit : Visit} (hstage : x.stage = .handling visit [] (.value .none)) :
      Wording app t x (Cors.decorate app.settings.corsOrigins x.request .empty)
  /-- The handler gave back a value. -/
  | value {visit : Visit} {v : Datum} {j : Json} (hstage : x.stage = .handling visit [] (.value v))
      (hjson : Payload.json v = .ok j) :
      Wording app t x (Cors.decorate app.settings.corsOrigins x.request (.json 200 [] j))

/-- `y` is the same request as `x`, and the access log has not got a line since. -/
structure Silent (x y : Exchange) : Prop where
  request : y.request = x.request
  access : accessRecords y.logs = accessRecords x.logs

/-- How a request fares in a turn. -/
inductive Fares (app : Application) (t : Turn) (x y : Exchange) : Prop
  /-- There is no response yet. -/
  | goesOn (hbefore : x.stage.isLeaving = false) (hsilent : x.Silent y)
      (hstage : y.stage.isLeaving = false)
  /-- There is a response. -/
  | answers {response : Response} (hbefore : x.stage.isLeaving = false)
      (hsilent : x.Silent y) (hwording : x.Wording app t response)
      (hstage : y.stage = .answered response)
  /-- Something broke. -/
  | breaks (hbefore : x.stage.isOver = false) (hsilent : x.Silent y)
      (hbreaks : x.BreaksOff app t) (hstage : y.stage = .done canned true)
  /-- The response is sent, and the access log gets a line. -/
  | sends {given response : Response} (hbefore : x.stage = .answered given)
      (hrequest : y.request = x.request)
      (hsave : SessionCookie.save app.settings.secretKey app.settings.secureCookies
        (Application.second t.moment.now).toNat x.carried x.session given = .ok response)
      (hlogs : y.logs = x.logs ++ [x.accessLog response.status])
      (hstage : y.stage = .done response false)
  /-- Nothing is left to be done. -/
  | rests (hover : x.stage.isOver = true) (heq : y = x)

/-! ## The ends of a turn -/

theorem Silent.refl (x : Exchange) : x.Silent x := ⟨rfl, rfl⟩

theorem Silent.tell (h : x.Silent y) {logs : List LogEntry} (hlogs : accessRecords logs = []) :
    x.Silent (y.tell logs) := by
  refine ⟨h.request, ?_⟩
  rw [Exchange.tell, accessRecords_append, hlogs, List.append_nil, h.access]

theorem Silent.breakOff (h : x.Silent y) : x.Silent y.breakOff :=
  have htold : x.Silent (y.tell [ErrorBody.brokenLog y.request]) :=
    h.tell (accessRecords_of_ne (by decide))
  ⟨htold.request, htold.access⟩

theorem isOver_of_isLeaving (h : x.stage.isLeaving = false) : x.stage.isOver = false := by
  cases hover : x.stage.isOver with
  | false => rfl
  | true => rw [Stage.isLeaving_of_isOver hover] at h; cases h

theorem breakOff_fares (hsilent : x.Silent z) (hbefore : x.stage.isOver = false)
    (hbreaks : x.BreaksOff app t) : Fares app t x z.breakOff :=
  .breaks hbefore hsilent.breakOff hbreaks rfl

section

variable (hsilent : x.Silent z) (hbefore : x.stage.isLeaving = false)

include hsilent hbefore

theorem respond_fares {given : Response}
    (hwording : x.Wording app t (Cors.decorate app.settings.corsOrigins x.request given)) :
    Fares app t x (z.respond app given) := by
  refine .answers hbefore ⟨hsilent.request, hsilent.access⟩ hwording ?_
  rw [respond, hsilent.request]

theorem respondError_fares (e : ApiError) : Fares app t x (z.respondError app e) :=
  respond_fares (hsilent.tell (accessRecords_apiErrorLogs z.request e)) hbefore (.error e)

theorem respondStatus_fares {code : Int} {detail : Datum} {headers : List (String × String)}
    (huntold : ErrorBody.ofStatus? code detail headers = none → x.BreaksOff app t) :
    Fares app t x (z.respondStatus app code detail headers) := by
  rw [respondStatus]
  split
  · next given htold => exact respond_fares hsilent hbefore (.status htold)
  · next hnone => exact breakOff_fares hsilent (isOver_of_isLeaving hbefore) (huntold hnone)

theorem respondFault_fares {f : Fault}
    (hbreaks : ErrorBody.ofFault? f = none → x.BreaksOff app t)
    (hwording : ∀ given, ErrorBody.ofFault? f = some given →
      x.Wording app t (Cors.decorate app.settings.corsOrigins x.request given)) :
    Fares app t x (z.respondFault app f) := by
  rw [respondFault]
  split
  · next given htold => exact respond_fares hsilent hbefore (hwording given htold)
  · next hnone => exact breakOff_fares hsilent (isOver_of_isLeaving hbefore) (hbreaks hnone)

theorem failAtGate_fares {f : Failure} (hbreaks : f.isUntold = true → x.BreaksOff app t)
    (hwording : ∀ fault given, f = .fault fault → ErrorBody.ofFault? fault = some given →
      x.Wording app t (Cors.decorate app.settings.corsOrigins x.request given)) :
    Fares app t x (z.failAtGate app f) := by
  cases f with
  | api e => exact respondError_fares hsilent hbefore e
  | status code detail headers =>
      refine respondStatus_fares hsilent hbefore fun hnone => hbreaks ?_
      rw [Failure.isUntold, hnone]
      rfl
  | limited limit seconds => exact respond_fares hsilent hbefore (.limited seconds)
  | fault f =>
      refine respondFault_fares hsilent hbefore (fun hnone => hbreaks ?_) fun given =>
        hwording f given rfl
      rw [Failure.isUntold, hnone]
      rfl

theorem failInHandler_fares {f : Failure}
    (hbreaks : ∀ code detail headers, f = .status code detail headers →
      ErrorBody.ofStatus? code detail headers = none → x.BreaksOff app t) :
    Fares app t x (z.failInHandler app f) := by
  cases f with
  | api e => exact respondError_fares hsilent hbefore e
  | status code detail headers =>
      exact respondStatus_fares hsilent hbefore (hbreaks code detail headers rfl)
  | limited limit seconds => exact respond_fares hsilent hbefore (.limited seconds)
  | fault f =>
      exact respondError_fares (hsilent.tell (accessRecords_of_ne (by decide))) hbefore _

theorem heed_fares {m : Mounted Handler} {params : List (String × Datum)}
    {d : Gate.Decision} (hlogs : accessRecords d.logs = [])
    (hbreaks : ∀ f, d.outcome = .error f → f.isUntold = true → x.BreaksOff app t)
    (hwording : ∀ fault given, d.outcome = .error (.fault fault) →
      ErrorBody.ofFault? fault = some given →
        x.Wording app t (Cors.decorate app.settings.corsOrigins x.request given)) :
    Fares app t x (z.heed app m params d) := by
  have hsame : ∀ session verified, x.Silent { z with session, verified } :=
    fun _ _ => ⟨hsilent.request, hsilent.access⟩
  have htold := (hsame (d.session.getD z.session) (z.verified ++ d.verified)).tell hlogs
  simp only [heed]
  split
  · exact .goesOn hbefore ⟨htold.request, htold.access⟩ rfl
  · next e _ => exact respondError_fares htold hbefore e
  · next f hf =>
      refine failAtGate_fares htold hbefore (hbreaks f hf) fun fault given hfault => ?_
      exact hwording fault given (hfault ▸ hf)

end

/-! ## The stages -/

theorem enter_fares (hstage : x.stage = .arrived) (hsilent : x.Silent z) :
    Fares app t x (z.enter app) := by
  have hbefore : x.stage.isLeaving = false := by rw [hstage]; rfl
  rw [enter, hsilent.request]
  split
  · next origin method hquestion =>
      exact .answers hbefore ⟨rfl, hsilent.access⟩ (.question hstage hquestion) rfl
  · next hquestion =>
      rw [route, hsilent.request]
      split
      · exact respond_fares hsilent hbefore .page
      · exact .goesOn hbefore ⟨rfl, hsilent.access⟩ rfl
      · next path _ => exact respond_fares hsilent hbefore (.pointing path)
      · next hunreadable =>
          exact breakOff_fares hsilent (isOver_of_isLeaving hbefore)
            (.finding hstage hquestion hunreadable)
      · exact respond_fares hsilent hbefore .nowhere

theorem meter_fares (hstage : x.stage = .arrived) (hsilent : x.Silent z) :
    Fares app t x (z.meter app t.moment t.standing).2 := by
  have hbefore : x.stage.isLeaving = false := by rw [hstage]; rfl
  have hcount : z.isCounted app = x.isCounted app := by
    rw [isCounted, isCounted, hsilent.request]
  have hsearch : z.isUncountable app = x.isUncountable app := by
    rw [isUncountable, isUncountable, hsilent.request]
  rw [meter, hcount, hsearch, hsilent.request]
  split
  · next huncountable =>
      exact breakOff_fares hsilent (isOver_of_isLeaving hbefore) (.searching hstage huncountable)
  · split
    · next hcounted =>
        split
        · next hparse =>
            exact breakOff_fares hsilent (isOver_of_isLeaving hbefore)
              (.limits hstage hcounted hparse)
        · next limits hparse =>
            split
            · exact enter_fares hstage hsilent
            · exact .answers hbefore ⟨rfl, hsilent.access⟩ .limiter rfl
            · next windows htally =>
                refine breakOff_fares hsilent (isOver_of_isLeaving hbefore)
                  (.counting hstage hcounted hparse ?_)
                rw [htally]
    · exact enter_fares hstage hsilent

theorem arrive_fares (hstage : x.stage = .arrived) :
    Fares app t x (x.arrive app t.moment t.standing).2 := by
  rw [arrive]
  split
  · next hload =>
      exact breakOff_fares (.refl x) (by rw [hstage]; rfl) (.reading hstage hload)
  · exact meter_fares hstage ⟨rfl, rfl⟩

theorem approach_fares {m : Mounted Handler} {params : List (String × Datum)}
    (hstage : x.stage = .routed m params) : Fares app t x (x.approach app m params) := by
  have hbefore : x.stage.isLeaving = false := by rw [hstage]; rfl
  rw [approach]
  split
  · next d happroach =>
      -- without a verdict nothing can fail
      have hdecided : ∀ f, d.outcome ≠ .error f := by
        intro f hf
        rw [Gate.approach] at happroach
        split at happroach
        · injection happroach with hd
          rw [← hd] at hf
          cases hf
        · simp only [] at happroach
          split at happroach
          · injection happroach with hd
            rw [← hd] at hf
            cases hf
          · cases happroach
      exact heed_fares (.refl x) hbefore (Gate.accessRecords_approach happroach)
        (fun f hf => absurd hf (hdecided f)) fun f _ hf => absurd hf (hdecided (.fault f))
  · exact .goesOn hbefore ⟨rfl, rfl⟩ rfl

theorem judge_fares {m : Mounted Handler} {params : List (String × Datum)} {token : Datum}
    (hstage : x.stage = .showing m params token) :
    Fares app t x (x.judge app t.moment.now m params token) := by
  refine heed_fares (.refl x) (by rw [hstage]; rfl) (Gate.accessRecords_settle _ _ _ _ _) ?_ ?_
  · intro f hf huntold
    rw [Gate.settle.eq_def] at hf
    split at hf
    · next g hverdict =>
        injection hf with hf
        exact .judging hstage (hf ▸ hverdict) huntold
    · cases hf
    · cases hf
    · next i hverdict =>
        split at hf
        · next typeName hunfit => exact .matching hstage hverdict hunfit
        · cases hf
  · intro f given hf htold
    rw [Gate.settle.eq_def] at hf
    split at hf
    · next g hverdict =>
        injection hf with hf
        exact .invalid hstage (hf ▸ hverdict) htold
    · cases hf
    · cases hf
    · split at hf
      · -- the framework has no response for a role that cannot be looked up
        injection hf with hf
        injection hf with hf
        rw [← hf] at htold
        cases htold
      · cases hf

theorem act_fares {visit : Visit} {a : Act} {rest : List Act} {last : Reply}
    (hstage : x.stage = .handling visit (a :: rest) last) :
    Fares app t x (x.act app t.moment t.standing visit last a rest) := by
  have hbefore : x.stage.isLeaving = false := by rw [hstage]; rfl
  have hsame : ∀ session, x.Silent { x with session } := fun _ => ⟨rfl, rfl⟩
  have hquiet := a.accessRecords_run visit (x.around app t.moment t.standing) last x.session
  simp only [act]
  split
  · have htold := (hsame x.session).tell hquiet
    exact .goesOn hbefore ⟨htold.request, htold.access⟩ rfl
  · next f hf =>
      refine failInHandler_fares ((hsame _).tell hquiet) hbefore
        fun code detail headers hstatus huntold => ?_
      rw [hstatus] at hf
      exact .failing hstage hf huntold

theorem conclude_fares {visit : Visit} {last : Reply} (hstage : x.stage = .handling visit [] last) :
    Fares app t x (x.conclude app last) := by
  have hbefore : x.stage.isLeaving = false := by rw [hstage]; rfl
  rw [conclude.eq_def]
  split
  · exact respond_fares (.refl x) hbefore (.own hstage)
  · next e => exact respondError_fares (.refl x) hbefore e
  · exact respond_fares (.refl x) hbefore (.nothing hstage)
  · split
    · next j hjson => exact respond_fares (.refl x) hbefore (.value hstage hjson)
    · next e hjson =>
        exact breakOff_fares (.refl x) (isOver_of_isLeaving hbefore) (.encoding hstage hjson)

theorem send_fares {given : Response} (hstage : x.stage = .answered given) :
    Fares app t x (x.stepAddressed app t.moment t.standing).2 := by
  rcases send_answered app t hstage with ⟨response, hsave, -, hsent⟩ | ⟨e, -, hsession, hsent⟩
  · rw [hsent]
    exact .sends hstage rfl hsave rfl rfl
  · rw [hsent]
    exact breakOff_fares (.refl x) (by rw [hstage]; rfl) (.sending hstage hsession)

theorem stepAddressed_fares (app : Application) (t : Turn) (x : Exchange) :
    Fares app t x (x.stepAddressed app t.moment t.standing).2 := by
  cases hstage : x.stage with
  | arrived => rw [stepAddressed, hstage]; exact arrive_fares hstage
  | routed m params => rw [stepAddressed, hstage]; exact approach_fares hstage
  | showing m params token => rw [stepAddressed, hstage]; exact judge_fares hstage
  | passed m params i =>
      rw [stepAddressed, hstage]
      exact .goesOn (by rw [hstage]; rfl) ⟨rfl, rfl⟩ rfl
  | handling visit acts last =>
      cases acts with
      | nil => rw [stepAddressed, hstage]; exact conclude_fares hstage
      | cons a rest => rw [stepAddressed, hstage]; exact act_fares hstage
  | answered given => exact send_fares hstage
  | done response broken =>
      refine .rests (by rw [hstage]; rfl) ?_
      rw [stepAddressed, hstage]
  | lost =>
      refine .rests (by rw [hstage]; rfl) ?_
      rw [stepAddressed, hstage]

/-! ## What breaks a request off -/

/-- A request that is stopped on its way to a route, and not before, is not counted. -/
theorem isCounted_of_unreadable (hcountable : x.isUncountable app = false)
    (hunreadable : Router.destination app.places x.request = .unreadable) :
    x.isCounted app = false := by
  cases hlimited : app.settings.rateLimitEnabled with
  | false => exact isCounted_of_free hlimited
  | true =>
      rw [isUncountable, hlimited, Bool.true_and] at hcountable
      rw [isCounted, Router.not_answers_of_unreadable hunreadable hcountable, Bool.and_false]

theorem meter_stage_of_unreadable (hquestion : Cors.question? x.request = none)
    (hunreadable : Router.destination app.places x.request = .unreadable) :
    (x.meter app t.moment t.standing).2.stage = .done canned true := by
  cases hsearch : x.isUncountable app with
  | true => rw [meter_of_uncountable hsearch]; rfl
  | false =>
      rw [meter_of_stray hsearch (isCounted_of_unreadable hsearch hunreadable)]
      simp only [enter, hquestion, route, hunreadable]
      rfl

theorem meter_stage_of_no_limits (hcounted : x.isCounted app = true)
    (hparse : RateLimit.parse? app.settings.rateLimit = none) :
    (x.meter app t.moment t.standing).2.stage = .done canned true := by
  rw [meter, hcounted, hparse]
  split <;> rfl

theorem meter_stage_of_broken {limits : List RateLimit.Limit} (hcounted : x.isCounted app = true)
    (hparse : RateLimit.parse? app.settings.rateLimit = some limits)
    (htally : (RateLimit.hitAll t.moment.fine t.moment.now (RateLimit.clientOf x.request)
      x.request.path limits t.standing.windows).1 = .broken) :
    (x.meter app t.moment t.standing).2.stage = .done canned true := by
  rw [meter, hcounted, hparse]
  simp only [↓reduceIte]
  split
  · rfl
  · split
    · next hwithin => rw [hwithin] at htally; cases htally
    · next hexceeded => rw [hexceeded] at htally; cases htally
    · rfl

/-- A request that arrives breaks off if, whatever its session is, it does on its way past the
limits. -/
theorem stage_of_arrived (hstage : x.stage = .arrived)
    (hbroken : ∀ y : Exchange, y.request = x.request →
      (y.meter app t.moment t.standing).2.stage = .done canned true) :
    (x.stepAddressed app t.moment t.standing).2.stage = .done canned true := by
  rw [stepAddressed, hstage, arrive.eq_def]
  simp only []
  split
  · rfl
  · exact hbroken _ rfl

theorem failAtGate_stage_of_isUntold {f : Failure} (huntold : f.isUntold = true) :
    (x.failAtGate app f).stage = .done canned true := by
  cases f with
  | api e => cases huntold
  | status code detail headers =>
      have hnone : ErrorBody.ofStatus? code detail headers = none :=
        Option.isNone_iff_eq_none.mp huntold
      simp only [failAtGate, respondStatus, hnone]
      rfl
  | limited limit seconds => cases huntold
  | fault f =>
      have hnone : ErrorBody.ofFault? f = none := Option.isNone_iff_eq_none.mp huntold
      simp only [failAtGate, respondFault, hnone]
      rfl

/-- Whatever breaks a request off, the client gets the canned answer at once. -/
theorem BreaksOff.stage_eq (h : x.BreaksOff app t) :
    (x.stepAddressed app t.moment t.standing).2.stage = .done canned true := by
  cases h with
  | reading hstage hload => rw [stepAddressed, hstage, arrive, hload]; rfl
  | searching hstage huncountable =>
      refine stage_of_arrived hstage fun y hy => ?_
      have hsearch : y.isUncountable app = true := by rwa [isUncountable, hy]
      rw [meter_of_uncountable hsearch]
      rfl
  | finding hstage hquestion hunreadable =>
      refine stage_of_arrived hstage fun y hy => ?_
      rw [← hy] at hquestion hunreadable
      exact meter_stage_of_unreadable hquestion hunreadable
  | limits hstage hcounted hparse =>
      refine stage_of_arrived hstage fun y hy => ?_
      have hcounted' : y.isCounted app = true := by rwa [isCounted, hy]
      exact meter_stage_of_no_limits hcounted' hparse
  | counting hstage hcounted hparse htally =>
      refine stage_of_arrived hstage fun y hy => ?_
      have hcounted' : y.isCounted app = true := by rwa [isCounted, hy]
      rw [← hy] at htally
      exact meter_stage_of_broken hcounted' hparse htally
  | judging hstage hverdict huntold =>
      simp only [stepAddressed, hstage, judge, hverdict, Gate.settle, heed]
      exact failAtGate_stage_of_isUntold huntold
  | matching hstage hverdict hunfit =>
      simp only [stepAddressed, hstage, judge, hverdict, Gate.settle, hunfit, heed]
      rfl
  | failing hstage hreply huntold =>
      simp only [stepAddressed, hstage, act, hreply, failInHandler, respondStatus, huntold]
      rfl
  | encoding hstage hjson => exact (Breaks.encoding hstage hjson).stepAddressed.1
  | sending hstage hsession =>
      rcases send_answered app t hstage with ⟨response, -, hsendable, -⟩ | ⟨e, -, -, hsent⟩
      · rw [hsession] at hsendable; cases hsendable
      · rw [hsent]; rfl

theorem response?_eq_some_iff {response : Response} :
    response? x = some response ↔ ∃ broken, x.stage = .done response broken := by
  rw [response?]
  split
  · next sent broken hdone =>
      rw [hdone]
      constructor
      · intro h
        exact ⟨broken, by rw [Option.some.inj h]⟩
      · rintro ⟨_, h⟩
        injection h with h
        rw [h]
  · next hother =>
      constructor
      · intro h
        cases h
      · rintro ⟨broken, hdone⟩
        exact absurd hdone (hother response broken)

/-! ## Along a run -/

/-- At some turn of a run the request finds itself so. -/
def AtSomeTurn (app : Application) (turns : List Turn) (r : Request)
    (P : Turn → Exchange → Prop) : Prop :=
  ∃ before t after, turns = before ++ t :: after ∧ P t (along app before (ofRequest r))

variable {turns : List Turn} {P : Turn → Exchange → Prop}

theorem atSomeTurn_concat :
    AtSomeTurn app (turns ++ [t]) r P ↔
      AtSomeTurn app turns r P ∨ P t (along app turns (ofRequest r)) := by
  constructor
  · rintro ⟨before, u, after, heq, hP⟩
    rcases List.eq_nil_or_concat' after with rfl | ⟨after, v, rfl⟩
    · obtain ⟨rfl, hu⟩ := List.append_inj' heq rfl
      injection hu with hu
      exact Or.inr (hu ▸ hP)
    · rw [← List.cons_append, ← List.append_assoc] at heq
      exact Or.inl ⟨before, u, after, (List.append_inj' heq rfl).1, hP⟩
  · rintro (⟨before, u, after, rfl, hP⟩ | hP)
    · exact ⟨before, u, after ++ [t], by rw [List.append_assoc, List.cons_append], hP⟩
    · exact ⟨turns, t, [], rfl, hP⟩

theorem not_atSomeTurn_nil : ¬ AtSomeTurn app [] r P := by
  rintro ⟨before, u, after, heq, -⟩
  exact absurd heq.symm (by simp)

theorem along_stepAddressed (haddress : r.hasAddress = true) (turns : List Turn) (t : Turn) :
    along app (turns ++ [t]) (ofRequest r) =
      ((along app turns (ofRequest r)).stepAddressed app t.moment t.standing).2 := by
  rw [along_concat, step]
  simp [along_request, haddress, ofRequest]

end Exchange

end Gatehouse
