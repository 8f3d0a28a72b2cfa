import Gatehouse.Proofs.Endings
import Gatehouse.Proofs.Interleaving
import Gatehouse.Proofs.JsonText

/-!
# The form of errors

A response of status 400 or above tells of an error in one form: an object with a message and
the status once more, or the bare text where there is no route. All that words responses for
the program itself keeps to it, which is read off `Exchange.Wording` one way of wording after
the other; sending adds headers only.

Three things do not keep to it. A handler may give back a response of its own and is not asked
about its form. The question of a browser is refused by a plain text that names what is not
allowed, although nothing but the program itself words it. And the framework has an answer of
its own for a verifier that finds a request invalid, which shows what the verifier says.
-/

namespace Gatehouse

open Http

theorem Json.Style.isPlain_compact : Json.Style.compact.IsPlain :=
  ⟨⟨[], rfl, List.forall_mem_nil _⟩, ⟨[], rfl, List.forall_mem_nil _⟩⟩

namespace Http

/-- Whether the body of a response is the object with a message and its status once more.
Whoever reads it finds just these two members, unless the status has more digits than are
read. -/
def Response.TellsError (r : Response) : Prop :=
  ∃ message, r.body = (ErrorBody.json message r.status).render .compact ∧
    (Json.isShort r.status = true → ∀ depth, Json.readOuter depth r.body.toList =
      .ok (.obj [("message", .str message), ("code", .int r.status)]))

theorem ErrorBody.restorable_json (message : String) {code : Int}
    (hshort : Json.isShort code = true) (depth : Nat) :
    Json.Restorable (depth + 1) (ErrorBody.json message code) := by
  have hnames : ["message", "code"].Nodup := by decide
  refine .obj hnames fun m hm => ?_
  simp only [List.mem_cons, List.not_mem_nil, or_false] at hm
  rcases hm with rfl | rfl
  · exact .str _
  · exact .int hshort

theorem Response.tellsError_of_body (message : String) {r : Response}
    (h : r.body = (ErrorBody.json message r.status).render .compact) : r.TellsError := by
  refine ⟨message, h, fun hshort depth => ?_⟩
  rw [h, Json.render, String.toList_ofList]
  exact (ErrorBody.restorable_json message hshort depth).read_print Json.Style.isPlain_compact

/-- The bare text where there is no route. -/
def Response.IsBareNotFound (r : Response) : Prop := r.status = 404 ∧ r.body = "Not Found"

/-- The refusal of a browser's question. -/
def Response.RefusesQuestion (origins : List String) (request : Request) (r : Response) : Prop :=
  ∃ origin method, Cors.question? request = some (origin, method) ∧
    Cors.objections origins request origin method ≠ [] ∧ r.status = 400 ∧
    r.body = "Disallowed CORS " ++
      String.intercalate ", " (Cors.objections origins request origin method)

theorem ErrorBody.form_of_ofStatus? {code : Int} {detail : Datum}
    {headers : List (String × String)} {r : Response}
    (h : ofStatus? code detail headers = some r) : r.TellsError ∨ r.IsBareNotFound := by
  rw [ofStatus?] at h
  split at h
  · injection h with h
    rw [← h]
    exact Or.inr ⟨rfl, rfl⟩
  · split at h
    · obtain ⟨message, -, hr⟩ := Option.map_eq_some_iff.mp h
      rw [← hr]
      exact Or.inl (Response.tellsError_of_body message rfl)
    · cases h

theorem Cors.refusesQuestion_answer {origins : List String} {r : Request} {origin method : String}
    (hquestion : question? r = some (origin, method))
    (herror : 400 ≤ (answer origins r origin method).status) :
    (answer origins r origin method).RefusesQuestion origins r := by
  cases hobjections : objections origins r origin method with
  | nil =>
      rw [answer, hobjections] at herror
      exact absurd herror (show ¬ (400 : Int) ≤ 200 by decide)
  | cons word words =>
      refine ⟨origin, method, hquestion, by rw [hobjections]; exact List.cons_ne_nil word words, ?_⟩
      rw [answer, hobjections]
      exact ⟨rfl, rfl⟩

end Http

namespace Exchange

variable {app : Application} {t : Turn} {x y : Exchange} {r : Request} {turns : List Turn}
  {response given : Response}

/-- The handler of a request gave back a response of its own, and this one has its status and
its body. -/
def GivesOwn (response : Response) (x : Exchange) : Prop :=
  ∃ visit own, x.stage = .handling visit [] (.response own) ∧ response.status = own.status ∧
    response.body = own.body

/-- The verifier has found a request invalid, and this response shows in which way. -/
def ShowsInvalid (app : Application) (response : Response) (t : Turn) (x : Exchange) : Prop :=
  ∃ m params token f errors j, x.stage = .showing m params token ∧
    app.verifier t.moment.now token = .error (.fault f) ∧ f.invalid? = some errors ∧
    Payload.json (.dict [(.str "detail", errors)]) = .ok j ∧ response.status = 422 ∧
    response.body = j.render .compact

/-- Whoever words an error keeps to the form, but for the three. -/
theorem Wording.form (h : x.Wording app t given) (herror : 400 ≤ given.status) :
    given.TellsError ∨ given.IsBareNotFound ∨
      given.RefusesQuestion app.settings.corsOrigins x.request ∨ x.GivesOwn given ∨
      x.ShowsInvalid app given t := by
  cases h with
  | question _ hquestion =>
      exact Or.inr (Or.inr (Or.inl (Cors.refusesQuestion_answer hquestion herror)))
  | limiter => exact Or.inl (Response.tellsError_of_body "Too many requests." rfl)
  | page =>
      have hstatus := app.framework.pages.status_eq x.request
      rw [Cors.decorate, hstatus] at herror
      exact absurd herror (by decide)
  | pointing path => exact absurd herror (show ¬ (400 : Int) ≤ 307 by decide)
  | nowhere => exact Or.inr (Or.inl ⟨rfl, rfl⟩)
  | error e => exact Or.inl (Response.tellsError_of_body e.message rfl)
  | status htold =>
      -- what a browser has to know is in the headers
      rcases ErrorBody.form_of_ofStatus? htold with ⟨message, hbody, -⟩ | hbare
      · exact Or.inl (Response.tellsError_of_body message hbody)
      · exact Or.inr (Or.inl hbare)
  | limited seconds => exact Or.inl (Response.tellsError_of_body "Too many requests." rfl)
  | invalid hstage hverdict htold =>
      obtain ⟨errors, hinvalid, htold⟩ := Option.bind_eq_some_iff.mp htold
      cases hjson : Payload.json (.dict [(.str "detail", errors)]) with
      | error e => rw [hjson] at htold; cases htold
      | ok j =>
          rw [hjson] at htold
          obtain rfl := Option.some.inj htold
          exact Or.inr (Or.inr (Or.inr (Or.inr ⟨_, _, _, _, errors, j, hstage, hverdict, hinvalid,
            hjson, rfl, rfl⟩)))
  | own hstage => exact Or.inr (Or.inr (Or.inr (Or.inl ⟨_, _, hstage, rfl, rfl⟩)))
  | nothing _ => exact absurd herror (show ¬ (400 : Int) ≤ 204 by decide)
  | value _ _ => exact absurd herror (show ¬ (400 : Int) ≤ 200 by decide)

/-! ## Along a run -/

/-- Sending a response adds headers only. -/
theorem status_body_of_save {secret : String} {secure carried : Bool} {second : Nat}
    {session : Session}
    (h : SessionCookie.save secret secure second carried session given = .ok response) :
    response.status = given.status ∧ response.body = given.body := by
  rw [SessionCookie.save] at h
  cases hheaders : SessionCookie.cookieHeaders secret secure second carried session with
  | error e => rw [hheaders] at h; cases h
  | ok extra =>
      rw [hheaders] at h
      injection h with h
      rw [← h]
      exact ⟨rfl, rfl⟩

/-- The response of a request was worded at one of its turns, or it is the canned one. -/
def Worded (app : Application) (turns : List Turn) (r : Request) (x : Exchange) : Prop :=
  match x.stage with
  | .answered given => AtSomeTurn app turns r fun t x => x.Wording app t given
  | .done response _ => response = canned ∨ ∃ given, response.status = given.status ∧
      response.body = given.body ∧ AtSomeTurn app turns r fun t x => x.Wording app t given
  | _ => True

theorem Fares.worded (h : Fares app t (along app turns (ofRequest r)) y)
    (hworded : Worded app turns r (along app turns (ofRequest r))) :
    Worded app (turns ++ [t]) r y := by
  cases h with
  | goesOn _ _ hstage =>
      rw [Worded]
      split
      · next given hanswered => rw [hanswered] at hstage; cases hstage
      · next response broken hdone => rw [hdone] at hstage; cases hstage
      · trivial
  | answers _ _ hwording hstage =>
      rw [Worded, hstage]
      exact atSomeTurn_concat.mpr (Or.inr hwording)
  | breaks _ _ _ hstage =>
      rw [Worded, hstage]
      exact Or.inl rfl
  | sends hbefore _ hsave _ hstage =>
      rw [Worded, hbefore] at hworded
      rw [Worded, hstage]
      obtain ⟨hstatus, hbody⟩ := status_body_of_save hsave
      exact Or.inr ⟨_, hstatus, hbody, atSomeTurn_concat.mpr (Or.inl hworded)⟩
  | rests hover heq =>
      rw [heq, Worded]
      rw [Worded] at hworded
      split
      · next given hanswered => rw [hanswered] at hover; cases hover
      · next response broken hdone =>
          rw [hdone] at hworded
          rcases hworded with hcanned | ⟨given, hstatus, hbody, hturn⟩
          · exact Or.inl hcanned
          · exact Or.inr ⟨given, hstatus, hbody, atSomeTurn_concat.mpr (Or.inl hturn)⟩
      · trivial

theorem worded_along (haddress : r.hasAddress = true) (turns : List Turn) :
    Worded app turns r (along app turns (ofRequest r)) := by
  induction turns using List.reverseRecOn with
  | nil => trivial
  | append_singleton turns t ih =>
      rw [along_stepAddressed haddress]
      exact (stepAddressed_fares app t _).worded ih

theorem form_of_done {broken : Bool}
    (hdone : (along app turns (ofRequest r)).stage = .done response broken)
    (herror : 400 ≤ response.status) :
    response.TellsError ∨ response.IsBareNotFound ∨
      response.RefusesQuestion app.settings.corsOrigins r ∨
      (AtSomeTurn app turns r fun _ x => x.GivesOwn response) ∨
      AtSomeTurn app turns r fun t x => x.ShowsInvalid app response t := by
  have hworded : Worded app turns r (along app turns (ofRequest r)) :=
    worded_along (along_done_hasAddress hdone) turns
  rw [Worded, hdone] at hworded
  rcases hworded with rfl | ⟨given, hstatus, hbody, before, t, after, heq, hwording⟩
  · exact Or.inl (Response.tellsError_of_body ErrorKind.unclassified.message rfl)
  · rw [hstatus] at herror
    have hrequest : (along app before (ofRequest r)).request = r := along_request before _
    -- what is said of the wording holds of the response, which has its status and its body
    rcases hwording.form herror with ⟨message, htold, -⟩ | ⟨hbare, htext⟩ |
      ⟨origin, method, hquestion, hobjections, hrefused, htext⟩ |
      ⟨visit, own, hstage, hown, htext⟩ |
      ⟨m, params, token, f, errors, j, hstage, hverdict, hinvalid, hjson, hshown, htext⟩
    · rw [← hstatus, ← hbody] at htold
      exact Or.inl (Response.tellsError_of_body message htold)
    · exact Or.inr (Or.inl ⟨hstatus.trans hbare, hbody.trans htext⟩)
    · rw [hrequest] at hquestion hobjections htext
      exact Or.inr (Or.inr (Or.inl ⟨origin, method, hquestion, hobjections,
        hstatus.trans hrefused, hbody.trans htext⟩))
    · exact Or.inr (Or.inr (Or.inr (Or.inl ⟨before, t, after, heq, visit, own, hstage,
        hstatus.trans hown, hbody.trans htext⟩)))
    · exact Or.inr (Or.inr (Or.inr (Or.inr ⟨before, t, after, heq, m, params, token, f, errors, j,
        hstage, hverdict, hinvalid, hjson, hstatus.trans hshown, hbody.trans htext⟩)))

end Exchange

namespace Pool

open Exchange

/-- Whatever requests are served together, and whatever the verifier and the handlers do: a
response of status 400 or above tells of an error in the one form, unless it refuses the
question of a browser, the handler of its request gave it back, or it shows in which way the
verifier has found its request invalid. -/
theorem errors_told_in_one_form (app : Application) (st : Standing) (rs : List Request)
    (schedule : List (Nat × Moment)) {i : Nat} {r : Request} {x : Exchange} {response : Response}
    (hr : rs[i]? = some r) (hx : ((ofRequests st rs).runTimed app schedule).exchanges[i]? = some x)
    (hresponse : response? x = some response) (herror : 400 ≤ response.status) :
    ∃ turns : List Turn, turns.map (·.moment) = momentsOf i schedule ∧
      (response.TellsError ∨ response.IsBareNotFound ∨
        response.RefusesQuestion app.settings.corsOrigins r ∨
        (AtSomeTurn app turns r fun _ x => x.GivesOwn response) ∨
        AtSomeTurn app turns r fun t x => x.ShowsInvalid app response t) := by
  obtain ⟨turns, hmoments, hturns⟩ :=
    exists_turns_runTimed app (ofRequests_of_getElem? st hr) schedule
  rw [hx] at hturns
  injection hturns with hturns
  obtain ⟨broken, hdone⟩ := response?_eq_some_iff.mp hresponse
  rw [hturns] at hdone
  exact ⟨turns, hmoments, form_of_done hdone herror⟩

/-- A handler that fails with a status of its own, and what its client reads. -/
theorem teapot_told :
    ∃ x response turns,
      ((ofRequests default [asking ""]).runTimed (solely [.fail (.status 418 (.str "short") [])])
        ((inTurns 1 7).map (·, midnight))).exchanges[0]? = some x ∧
      response? x = some response ∧ response.status = 418 ∧
      response.body = "\x7b\"message\":\"short\",\"code\":418\x7d" ∧
      turns.map (·.moment) = momentsOf 0 ((inTurns 1 7).map (·, midnight)) ∧
      (response.TellsError ∨ response.IsBareNotFound ∨
        (AtSomeTurn (solely [.fail (.status 418 (.str "short") [])]) turns (asking "")
          fun _ x => x.GivesOwn response) ∨
        AtSomeTurn (solely [.fail (.status 418 (.str "short") [])]) turns (asking "")
          fun t x =>
            x.ShowsInvalid (solely [.fail (.status 418 (.str "short") [])]) response t) := by
  have htold : ((((ofRequests default [asking ""]).runTimed
      (solely [.fail (.status 418 (.str "short") [])])
      ((inTurns 1 7).map (·, midnight))).exchanges[0]?.bind response?).map
        fun response => (response.status, response.body)) =
      some (418, "\x7b\"message\":\"short\",\"code\":418\x7d") := by
    rfl
  obtain ⟨response, hresponse, hpair⟩ := Option.map_eq_some_iff.mp htold
  obtain ⟨x, hx, hsome⟩ := Option.bind_eq_some_iff.mp hresponse
  obtain ⟨hstatus, hbody⟩ := Prod.mk.inj hpair
  obtain ⟨turns, hmoments, hform⟩ := errors_told_in_one_form
    (solely [.fail (.status 418 (.str "short") [])]) default [asking ""]
    ((inTurns 1 7).map (·, midnight)) (i := 0) (r := asking "") rfl hx hsome
    (by rw [hstatus]; decide)
  refine ⟨x, response, turns, hx, hsome, hstatus, hbody, hmoments, ?_⟩
  rcases hform with htells | hbare | ⟨origin, method, hquestion, -⟩ | hown | hshown
  · exact Or.inl htells
  · exact Or.inr (Or.inl hbare)
  · cases hquestion
  · exact Or.inr (Or.inr (Or.inl hown))
  · exact Or.inr (Or.inr (Or.inr hshown))

end Pool

namespace Exchange

/-- A browser asks for a page of an origin that is not allowed. -/
def preflight : Request :=
  ⟨"OPTIONS", "/api/v1/x", "", [("origin", "http://elsewhere.example"),
    ("access-control-request-method", "GET")], "", none, none⟩

/-- No handler is called, and what the browser gets is neither of the two forms. -/
theorem question_refused_plainly :
    (serve (solely []) midnight default preflight).2.calls = [] ∧
      ∃ response, response? (serve (solely []) midnight default preflight).2 = some response ∧
        response.status = 400 ∧ response.body = "Disallowed CORS origin" ∧
        ¬ response.TellsError ∧ ¬ response.IsBareNotFound := by
  have hrefused : (response? (serve (solely []) midnight default preflight).2).map
      (fun response => (response.status, response.body)) =
        some (400, "Disallowed CORS origin") := by
    rfl
  obtain ⟨response, hresponse, hpair⟩ := Option.map_eq_some_iff.mp hrefused
  obtain ⟨hstatus, hbody⟩ := Prod.mk.inj hpair
  refine ⟨by rfl, response, hresponse, hstatus, hbody, ?_, ?_⟩
  · rintro ⟨message, htold, -⟩
    rw [hbody] at htold
    -- an object opens with a brace
    have hopens := congrArg (fun s => s.toList.head?) htold
    simp [Json.render, ErrorBody.json, Json.print] at hopens
  · rintro ⟨hmissing, -⟩
    rw [hstatus] at hmissing
    cases hmissing

end Exchange

end Gatehouse
