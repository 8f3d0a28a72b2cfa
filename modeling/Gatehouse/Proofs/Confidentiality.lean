import Gatehouse.Proofs.Turns

/-!
# What an error tells a client

An error meets a request in one of three places: the verifier breaks on its token, its
handler fails or gives back an error, or what the handler gave back cannot be written
down. The client learns the kind of the error and nothing else, which is a statement about
two runs: where both come to an error of one kind, the client cannot tell them apart.

`Ends` and `Breaks` say where a request is when that happens. Two turns later at most the
response is there, and `errorResponse` writes it down as a function of the kind and of the
session that the handler left. The session is part of it: a response that goes with a
session that was looked at says so, whatever else went wrong.
-/

namespace Gatehouse

/-- Whether a session can be sent back with a response. -/
def Session.isSendable (s : Session) : Bool :=
  !s.changed || s.entries.isEmpty || (Value.toJson (.dict s.entries)).isOk

/-- The kind of the error that a handler comes to, if it comes to one. -/
def errorKind? : Except Failure Reply → Option ErrorKind
  | .ok (.error e) | .error (.api e) => some e.kind
  | .error (.fault _) => some .unclassified
  | _ => none

/-- No act tells of anything broken: that is left to what notices a failure. -/
theorem Act.errorRecords_run (a : Act) (visit : Visit) (around : Surroundings) (last : Reply)
    (session : Session) : errorRecords (a.run visit around last session).logs = [] :=
  List.filter_eq_nil_iff.mpr fun l hl => by
    rw [Act.eq_of_mem_logs_run hl]
    decide

namespace Exchange

variable {app : Application} {moment : Moment} {st : Standing} {t : Turn} {x y : Exchange}
  {r : Http.Request} {session : Session} {ending : Except Failure Reply} {kind : ErrorKind}

/-! ## Turns at one moment -/

/-- Steps at one moment are turns, each with the standing that it meets. -/
theorem exists_turns (app : Application) (moment : Moment) (n : Nat) (st : Standing)
    (x : Exchange) :
    ∃ turns : List Turn, turns.length = n ∧ (∀ t ∈ turns, t.moment = moment) ∧
      (advance app moment n st x).2 = along app turns x := by
  induction n generalizing st x with
  | zero => exact ⟨[], rfl, fun t ht => (List.not_mem_nil ht).elim, rfl⟩
  | succ n ih =>
      obtain ⟨turns, hlen, hmoment, heq⟩ :=
        ih (x.step app moment st).1 (x.step app moment st).2
      refine ⟨⟨moment, st⟩ :: turns, by rw [List.length_cons, hlen], fun t ht => ?_, heq⟩
      rcases List.mem_cons.mp ht with rfl | ht
      · rfl
      · exact hmoment t ht

theorem after_request (n : Nat) : (after app moment st r n).request = r := by
  obtain ⟨turns, -, -, heq⟩ := exists_turns app moment n st (ofRequest r)
  rw [after, heq]
  exact along_request turns _

/-- A request that has to be told something more has two steps left for it. -/
theorem add_two_le_enough {n : Nat} (h : (after app moment st r n).stage.isLeaving = false) :
    n + 2 ≤ enough app := by
  obtain ⟨turns, hlen, -, heq⟩ := exists_turns app moment n st (ofRequest r)
  rw [after, heq] at h
  have hle : (along app turns (ofRequest r)).stage.remaining (longestHandler app.places) ≤
      (ofRequest r).stage.remaining (longestHandler app.places) - turns.length :=
    along_remaining_le turns (ofRequest r)
  have htwo : 2 ≤ (along app turns (ofRequest r)).stage.remaining (longestHandler app.places) :=
    Stage.two_le_remaining h
  have hstart : (ofRequest r).stage.remaining (longestHandler app.places) = enough app := rfl
  omega

theorem hasAddress_of_after_done {n : Nat} {response : Http.Response} {broken : Bool}
    (h : (after app moment st r n).stage = .done response broken) : r.hasAddress = true := by
  obtain ⟨turns, -, -, heq⟩ := exists_turns app moment n st (ofRequest r)
  rw [after, heq] at h
  exact along_done_hasAddress h

/-- What a request has come to at its end is what serving it comes to. -/
theorem serve_eq_of_isOver {n : Nat} (hle : n ≤ enough app)
    (hover : (after app moment st r n).stage.isOver = true) :
    (serve app moment st r).2 = after app moment st r n := by
  obtain ⟨more, hmore⟩ := Nat.exists_eq_add_of_le hle
  have hstart : (serve app moment st r).2 = (advance app moment more
      (advance app moment n st (ofRequest r)).1 (after app moment st r n)).2 := by
    rw [serve, hmore, advance_add]
    rfl
  obtain ⟨turns, -, -, heq⟩ := exists_turns app moment more
    (advance app moment n st (ofRequest r)).1 (after app moment st r n)
  rw [hstart, heq]
  refine along_of_isOver turns hover fun response broken hdone => ?_
  rw [after_request]
  exact hasAddress_of_after_done hdone

theorem after_succ (n : Nat) :
    after app moment st r (n + 1) = ((after app moment st r n).step app moment
      (advance app moment n st (ofRequest r)).1).2 := by
  rw [after, advance_add]
  rfl

theorem after_succ_of_hasAddress (haddress : r.hasAddress = true) (n : Nat) :
    after app moment st r (n + 1) = ((after app moment st r n).stepAddressed app moment
      (advance app moment n st (ofRequest r)).1).2 := by
  rw [after_succ, step]
  simp [after_request, haddress]

/-- Without an address there is no response. -/
theorem response?_serve_eq_none (haddress : r.hasAddress = false) :
    response? (serve app moment st r).2 = none := by
  rw [serve_eq_after, response?]
  split
  · next response broken hdone =>
      rw [hasAddress_of_after_done hdone] at haddress
      cases haddress
  · rfl

/-! ## Until something goes wrong -/

/-- A request has come in, and no response is made yet. -/
def IsUnderWay (x : Exchange) : Prop := x.stage ≠ .arrived ∧ x.stage.isLeaving = false

/-- Until a response is made nothing is said to be broken, and what is known of the
client's cookie is what its session was read with. -/
def Calm (app : Application) (moment : Moment) (r : Http.Request) (x : Exchange) : Prop :=
  x.stage.isLeaving = true ∨ x = ofRequest r ∨
    errorRecords x.logs = [] ∧ ∃ a, app.load
      (Application.second moment.now) r = some a ∧ x.carried = a.carried

theorem Calm.step (hcalm : Calm app t.moment r x) (hrequest : x.request = r)
    (h : Moves app t x y) : Calm app t.moment r y := by
  cases h with
  | finds hstage hload _ =>
      rcases hcalm with hleaving | rfl | ⟨hlogs, -⟩
      · rw [hstage] at hleaving; cases hleaving
      · exact Or.inr (Or.inr ⟨rfl, _, hload, rfl⟩)
      · exact Or.inr (Or.inr ⟨hlogs, _, hrequest ▸ hload, rfl⟩)
  | acts hstage hrun _ =>
      rcases hcalm with hleaving | rfl | ⟨hlogs, hcarried⟩
      · rw [hstage] at hleaving; cases hleaving
      · cases hstage
      · refine Or.inr (Or.inr ⟨?_, hcarried⟩)
        rw [errorRecords_append, hlogs, ← hrun, Act.errorRecords_run]
        rfl
  | opens hstage _ | shows hstage _ _ | accepts hstage _ | calls hstage =>
      rcases hcalm with hleaving | rfl | hrest
      · rw [hstage] at hleaving; cases hleaving
      · cases hstage
      · exact Or.inr (Or.inr hrest)
  | leaves _ hleaving _ => exact Or.inl hleaving

theorem calm_after (n : Nat) : Calm app moment r (after app moment st r n) := by
  induction n with
  | zero => exact Or.inr (Or.inl rfl)
  | succ n ih =>
      rw [after_succ]
      exact ih.step (t := ⟨moment, _⟩) (after_request n) step_moves

theorem Calm.of_isUnderWay (hcalm : Calm app moment r x) (h : x.IsUnderWay) :
    errorRecords x.logs = [] ∧ ∃ a, app.load
      (Application.second moment.now) r = some a ∧ x.carried = a.carried := by
  obtain ⟨harrived, hstage⟩ := h
  rcases hcalm with hleaving | rfl | hrest
  · rw [hstage] at hleaving; cases hleaving
  · exact absurd rfl harrived
  · exact hrest

/-! ## The handler comes to an error -/

/-- The handler of a request comes to its end with this turn, and leaves this session. -/
inductive Ends (app : Application) (t : Turn) (x : Exchange) :
    Except Failure Reply → Session → Prop
  | gives {visit : Visit} {last : Reply} (hstage : x.stage = .handling visit [] last) :
      Ends app t x (.ok last) x.session
  | fails {visit : Visit} {a : Act} {rest : List Act} {last : Reply} {f : Failure}
      {outcome : ActOutcome} (hstage : x.stage = .handling visit (a :: rest) last)
      (hrun : a.run visit (x.around app t.moment t.standing) last x.session = outcome)
      (hreply : outcome.reply = .error f) :
      Ends app t x (.error f) outcome.session

/-- The handler of a request comes to its end, with this ending, and leaves this session. -/
def HandlerEnds (app : Application) (moment : Moment) (st : Standing) (r : Http.Request)
    (ending : Except Failure Reply) (session : Session) : Prop :=
  ∃ n, (after app moment st r n).Ends app
    ⟨moment, (advance app moment n st (ofRequest r)).1⟩ ending session

theorem HandlerEnds.of_fail {n : Nat} {visit : Visit} {f : Failure} {rest : List Act}
    {last : Reply}
    (hstage : (after app moment st r n).stage = .handling visit (.fail f :: rest) last)
    (hsession : (after app moment st r n).session = session) :
    HandlerEnds app moment st r (.error f) session := by
  subst hsession
  exact ⟨n, .fails hstage rfl rfl⟩

/-- What is told to every client whose request broke something. -/
def canned : Http.Response := Http.ErrorBody.ofApiError ⟨.unclassified, ""⟩

theorem canned_eq :
    canned = ⟨500, [("content-length", "54"), ("content-type", "application/json")],
      "\x7b\"message\":\"An unexpected error occurred.\",\"code\":500\x7d"⟩ := by
  rfl

/-- The response to an error of a kind, where the handler has left this session. -/
def errorResponse (s : Settings) (now : Int) (r : Http.Request) (carried : Bool)
    (session : Session) (kind : ErrorKind) : Http.Response :=
  let response := Http.Cors.decorate s.corsOrigins r (Http.ErrorBody.ofApiError ⟨kind, ""⟩)
  match Http.SessionCookie.save s.secretKey s.secureCookies (Application.second now).toNat
      carried session response with
  | .ok response => response
  | .error _ => canned

/-- What is said to be broken when a handler comes to its end. -/
def failureRecords (r : Http.Request) : Except Failure Reply → List LogEntry
  | .error (.fault _) => [handlerLog r]
  | _ => []

theorem errorRecords_apiErrorLogs (r : Http.Request) (e : ApiError) :
    errorRecords (Http.ErrorBody.apiErrorLogs r e) = [] := by
  rw [Http.ErrorBody.apiErrorLogs]
  split <;> rfl

/-- The error is answered by its kind, and the session is what the handler left. -/
theorem Ends.stepAddressed (h : x.Ends app t ending session)
    (hkind : errorKind? ending = some kind) :
    ∃ logs, errorRecords logs = failureRecords x.request ending ∧
      (x.stepAddressed app t.moment t.standing).2 =
        { x with
          session := session
          logs := x.logs ++ logs
          stage := .answered (Http.Cors.decorate app.settings.corsOrigins x.request
            (Http.ErrorBody.ofApiError ⟨kind, ""⟩)) } := by
  cases h with
  | gives hstage =>
      rename_i visit last
      cases last with
      | error e =>
          injection hkind with hkind
          subst hkind
          refine ⟨_, errorRecords_apiErrorLogs x.request e, ?_⟩
          simp only [Exchange.stepAddressed, hstage, conclude]
          rfl
      | value v => cases hkind
      | response response => cases hkind
  | fails hstage hrun hreply =>
      rename_i f outcome
      have hacted : (x.stepAddressed app t.moment t.standing).2 =
          ({ x with session := outcome.session }.tell outcome.logs).failInHandler app f := by
        simp only [Exchange.stepAddressed, hstage, act, hrun, hreply]
      have hquiet : errorRecords outcome.logs = [] := by
        rw [← hrun]
        exact Act.errorRecords_run _ _ _ _ _
      cases f with
      | api e =>
          injection hkind with hkind
          subst hkind
          refine ⟨outcome.logs ++ Http.ErrorBody.apiErrorLogs x.request e, ?_, ?_⟩
          · rw [errorRecords_append, hquiet, errorRecords_apiErrorLogs]
            rfl
          · rw [hacted, ← List.append_assoc]
            rfl
      | fault f =>
          injection hkind with hkind
          subst hkind
          refine ⟨outcome.logs ++ [handlerLog x.request], ?_, ?_⟩
          · rw [errorRecords_append, hquiet]
            rfl
          · rw [hacted, ← List.append_assoc]
            simp only [failInHandler, respondError, Failure.classify,
              Http.ErrorBody.apiErrorLogs, decide_true, Bool.or_true, ↓reduceIte, tell,
              List.append_nil]
            rfl
      | status code detail headers => cases hkind
      | limited limit seconds => cases hkind

theorem isOk_cookieHeaders (secret : String) (secure : Bool) (second : Nat) (carried : Bool)
    (s : Session) :
    (Http.SessionCookie.cookieHeaders secret secure second carried s).isOk = s.isSendable := by
  rw [Http.SessionCookie.cookieHeaders, Session.isSendable]
  cases s.changed with
  | false => rfl
  | true =>
      cases s.entries.isEmpty with
      | true => rfl
      | false => cases Value.toJson (.dict s.entries) <;> rfl

/-- Sending goes wrong only with a session that cannot be sent. -/
theorem send_answered (app : Application) (t : Turn) {response : Http.Response}
    (hstage : x.stage = .answered response) :
    (∃ sent, Http.SessionCookie.save app.settings.secretKey app.settings.secureCookies
          (Application.second t.moment.now).toNat x.carried x.session response = .ok sent ∧
        x.session.isSendable = true ∧
        (x.stepAddressed app t.moment t.standing).2 =
          { x.tell [x.accessLog sent.status] with stage := .done sent false }) ∨
      (∃ e, Http.SessionCookie.save app.settings.secretKey app.settings.secureCookies
          (Application.second t.moment.now).toNat x.carried x.session response = .error e ∧
        x.session.isSendable = false ∧
        (x.stepAddressed app t.moment t.standing).2 = x.breakOff) := by
  have hsend : (x.stepAddressed app t.moment t.standing).2 =
      x.send app t.moment.now response := by
    rw [Exchange.stepAddressed, hstage]
  have hsendable := isOk_cookieHeaders app.settings.secretKey app.settings.secureCookies
    (Application.second t.moment.now).toNat x.carried x.session
  rw [hsend, send, Http.SessionCookie.save]
  cases hheaders : Http.SessionCookie.cookieHeaders app.settings.secretKey
      app.settings.secureCookies (Application.second t.moment.now).toNat x.carried x.session with
  | ok extra =>
      rw [hheaders] at hsendable
      exact Or.inl ⟨_, rfl, hsendable.symm, rfl⟩
  | error e =>
      rw [hheaders] at hsendable
      exact Or.inr ⟨e, rfl, hsendable.symm, rfl⟩

theorem Ends.isUnderWay (h : x.Ends app t ending session) : x.IsUnderWay := by
  cases h with
  | gives hstage | fails hstage _ _ =>
      rw [IsUnderWay, hstage]
      exact ⟨nofun, rfl⟩

/-- The response to an error of a handler, and what is said to be broken. -/
theorem serve_of_handlerEnds (haddress : r.hasAddress = true)
    (h : HandlerEnds app moment st r ending session) (hkind : errorKind? ending = some kind) :
    ∃ a, app.load (Application.second moment.now) r = some a ∧
      response? (serve app moment st r).2 =
        some (errorResponse app.settings moment.now r a.carried session kind) ∧
      errorRecords (serve app moment st r).2.logs = failureRecords r ending ++
        if session.isSendable then [] else [Http.ErrorBody.brokenLog r] := by
  obtain ⟨n, hends⟩ := h
  obtain ⟨hquiet, a, hload, hcarried⟩ := (calm_after n).of_isUnderWay hends.isUnderWay
  have henough := add_two_le_enough hends.isUnderWay.2
  have hrequest : (after app moment st r n).request = r := after_request n
  obtain ⟨logs, hlogs, hanswered⟩ := hends.stepAddressed hkind
  rw [hrequest] at hlogs hanswered
  have hone := (after_succ_of_hasAddress haddress n).trans hanswered
  have htwo : after app moment st r (n + 2) = _ := after_succ_of_hasAddress haddress (n + 1)
  have hstage := congrArg stage hone
  refine ⟨a, hload, ?_⟩
  rcases send_answered app ⟨moment, (advance app moment (n + 1) st (ofRequest r)).1⟩ hstage with
    ⟨sent, hsave, hsendable, hsent⟩ | ⟨e, hsave, hsendable, hsent⟩
  all_goals
    rw [hsent] at htwo
    have hserve : (serve app moment st r).2 = after app moment st r (n + 2) :=
      serve_eq_of_isOver henough (by rw [htwo]; rfl)
    rw [hserve, htwo]
    simp only [hone, hcarried] at hsave hsendable ⊢
  · refine ⟨?_, ?_⟩
    · simp only [response?, errorResponse, hsave]
    · simp only [tell, errorRecords_append, hquiet, hlogs, hsendable, ↓reduceIte]
      rfl
  · refine ⟨?_, ?_⟩
    · simp only [breakOff, response?, errorResponse, hsave, canned]
    · simp only [breakOff, tell, errorRecords_append, hquiet, hlogs, hsendable,
        Bool.false_eq_true, ↓reduceIte]
      rfl

/-! ## Something breaks around the handler -/

/-- With this turn the verifier breaks on the token, with an error that the framework has no
response of its own for, or what the handler gave back cannot be written down. -/
inductive Breaks (app : Application) (t : Turn) (x : Exchange) : Prop
  | judging {m : Http.Mounted Handler} {params : List (String × Datum)} {token : Datum}
      {f : Fault} (hstage : x.stage = .showing m params token)
      (hverdict : app.verifier t.moment.now token = .error (.fault f))
      (huntold : Http.ErrorBody.ofFault? f = none)
  | encoding {visit : Visit} {v : Datum} {e : Value.NotJson}
      (hstage : x.stage = .handling visit [] (.value v)) (hjson : Http.Payload.json v = .error e)

/-- Something breaks around the handler of a request. -/
def BreaksOutside (app : Application) (moment : Moment) (st : Standing) (r : Http.Request) :
    Prop :=
  ∃ n, (after app moment st r n).Breaks app ⟨moment, (advance app moment n st (ofRequest r)).1⟩

theorem Breaks.isUnderWay (h : x.Breaks app t) : x.IsUnderWay := by
  cases h with
  | judging hstage _ _ | encoding hstage _ =>
      rw [IsUnderWay, hstage]
      exact ⟨nofun, rfl⟩

/-- The request is answered at once, and what is said of it is that something broke. -/
theorem Breaks.stepAddressed (h : x.Breaks app t) :
    (x.stepAddressed app t.moment t.standing).2.stage = .done canned true ∧
      (x.stepAddressed app t.moment t.standing).2.logs =
        x.logs ++ [Http.ErrorBody.brokenLog x.request] := by
  cases h with
  | judging hstage hverdict huntold =>
      simp only [Exchange.stepAddressed, hstage, judge, hverdict, Gate.settle, heed, failAtGate,
        respondFault, huntold, breakOff, tell, List.append_nil]
      exact ⟨rfl, trivial⟩
  | encoding hstage hjson =>
      rename_i visit v e
      have hconclude : x.conclude app (.value v) = x.breakOff := by
        rw [conclude.eq_def]
        split
        · next heq => cases heq
        · next heq => cases heq
        · next heq =>
            -- nothing at all can be written down
            injection heq with heq
            rw [heq] at hjson
            cases hjson
        · next heq =>
            injection heq with heq
            rw [← heq, hjson]
      simp only [Exchange.stepAddressed, hstage, hconclude]
      exact ⟨rfl, rfl⟩

theorem serve_of_breaksOutside (haddress : r.hasAddress = true)
    (h : BreaksOutside app moment st r) :
    response? (serve app moment st r).2 = some canned ∧
      errorRecords (serve app moment st r).2.logs = [Http.ErrorBody.brokenLog r] := by
  obtain ⟨n, hbreaks⟩ := h
  obtain ⟨hquiet, -⟩ := (calm_after n).of_isUnderWay hbreaks.isUnderWay
  have henough := add_two_le_enough hbreaks.isUnderWay.2
  obtain ⟨hstage, hlogs⟩ := hbreaks.stepAddressed
  rw [← after_succ_of_hasAddress haddress] at hstage hlogs
  have hserve : (serve app moment st r).2 = after app moment st r (n + 1) :=
    serve_eq_of_isOver (by omega) (by rw [hstage]; rfl)
  rw [hserve]
  refine ⟨by rw [response?, hstage], ?_⟩
  rw [hlogs, errorRecords_append, hquiet, after_request]
  rfl

/-! ## What the client learns -/

theorem errorResponse_unclassified (s : Settings) (now : Int) (r : Http.Request) (carried : Bool)
    (session : Session) :
    (errorResponse s now r carried session .unclassified).status = canned.status ∧
      (errorResponse s now r carried session .unclassified).body = canned.body := by
  rw [errorResponse, Http.SessionCookie.save]
  cases Http.SessionCookie.cookieHeaders s.secretKey s.secureCookies
      (Application.second now).toNat carried session with
  | ok extra => exact ⟨rfl, rfl⟩
  | error e => exact ⟨rfl, rfl⟩

/-- A client cannot tell apart two errors of one kind: neither two that its handler comes
to, so long as the handler leaves the same session, nor two that break something around
the handler. Whatever broke, the client gets the canned answer; and what broke is said
once, beside what is said of a session that cannot be sent. -/
theorem errors_tell_their_kind {app app' : Application} (hsettings : app.settings = app'.settings)
    (moment : Moment) (st st' : Standing) (r : Http.Request) :
    (∀ ending ending' session kind, HandlerEnds app moment st r ending session →
        HandlerEnds app' moment st' r ending' session →
        errorKind? ending = some kind → errorKind? ending' = some kind →
        response? (serve app moment st r).2 = response? (serve app' moment st' r).2) ∧
      (BreaksOutside app moment st r → BreaksOutside app' moment st' r →
        response? (serve app moment st r).2 = response? (serve app' moment st' r).2) ∧
      (r.hasAddress = true → ∀ f session, HandlerEnds app moment st r (.error (.fault f)) session →
        (∃ response, response? (serve app moment st r).2 = some response ∧
          response.status = canned.status ∧ response.body = canned.body) ∧
        errorRecords (serve app moment st r).2.logs =
          handlerLog r :: if session.isSendable then [] else [Http.ErrorBody.brokenLog r]) ∧
      (r.hasAddress = true → BreaksOutside app moment st r →
        response? (serve app moment st r).2 = some canned ∧
          errorRecords (serve app moment st r).2.logs = [Http.ErrorBody.brokenLog r]) := by
  refine ⟨?_, ?_, ?_, fun haddress hbreaks => serve_of_breaksOutside haddress hbreaks⟩
  · intro ending ending' session kind hends hends' hkind hkind'
    cases haddress : r.hasAddress with
    | false => rw [response?_serve_eq_none haddress, response?_serve_eq_none haddress]
    | true =>
        obtain ⟨a, hload, hresponse, -⟩ := serve_of_handlerEnds haddress hends hkind
        obtain ⟨a', hload', hresponse', -⟩ := serve_of_handlerEnds haddress hends' hkind'
        rw [Application.load, ← hsettings] at hload'
        rw [← hsettings, ← Http.SessionCookie.carried_eq_of_load hload hload'] at hresponse'
        rw [hresponse, hresponse']
  · intro hbreaks hbreaks'
    cases haddress : r.hasAddress with
    | false => rw [response?_serve_eq_none haddress, response?_serve_eq_none haddress]
    | true =>
        rw [(serve_of_breaksOutside haddress hbreaks).1,
          (serve_of_breaksOutside haddress hbreaks').1]
  · intro haddress f session hends
    obtain ⟨a, -, hresponse, hrecords⟩ := serve_of_handlerEnds haddress hends rfl
    rw [hresponse, hrecords]
    exact ⟨⟨_, rfl, errorResponse_unclassified _ _ _ _ _⟩, rfl⟩

/-! ## A handler that fails in several ways -/

/-- An application with one open route, whose handler does these acts. -/
def solely (acts : List Act) : Application :=
  let entry : RouteEntry Handler := ⟨"/api/v1/x", "get", ⟨true, none⟩, ⟨"x", acts⟩⟩
  ⟨{ rateLimitEnabled := false }, fun _ _ => .ok .invalid, .bare, [entry],
    Http.Mounted.plainPlaces entry⟩

def asking (query : String) : Http.Request := ⟨"GET", "/api/v1/x", query, [], "", none, none⟩

def midnight : Moment := ⟨0, .smooth "", false⟩

/-- An error that names something which the client must not learn. -/
def leak : Failure := .fault ⟨.runtimeError, [.str "secret"]⟩

/-- A value that cannot be written down, to be kept in a session. -/
def oddity : Datum := .thing "object"

/-- Whether the error is given back or raised, and whatever its detail, the client gets
the same answer. -/
theorem given_or_raised :
    (solely [.giveError ⟨.invalidRequest, "a"⟩]).settings =
        (solely [.fail (.api ⟨.invalidRequest, "b"⟩)]).settings ∧
      response? (serve (solely [.giveError ⟨.invalidRequest, "a"⟩]) midnight default
          (asking "")).2 =
        response? (serve (solely [.fail (.api ⟨.invalidRequest, "b"⟩)]) midnight default
          (asking "")).2 := by
  have hgave : (after (solely [.giveError ⟨.invalidRequest, "a"⟩]) midnight default
      (asking "") 4).stage = .handling ⟨asking "", [], none⟩ []
        (.error ⟨.invalidRequest, "a"⟩) := rfl
  have hraised : (after (solely [.fail (.api ⟨.invalidRequest, "b"⟩)]) midnight default
      (asking "") 3).stage = .handling ⟨asking "", [], none⟩
        [.fail (.api ⟨.invalidRequest, "b"⟩)] (.value .none) := rfl
  have hsettings : (solely [.giveError ⟨.invalidRequest, "a"⟩]).settings =
      (solely [.fail (.api ⟨.invalidRequest, "b"⟩)]).settings := rfl
  exact ⟨hsettings, (errors_tell_their_kind hsettings midnight default default (asking "")).1
    _ _ (.ofEntries []) _ ⟨4, .gives hgave⟩ (.of_fail hraised rfl) rfl rfl⟩

/-- An application with one guarded route, whose verifier fails with this error. -/
def refusing (f : Fault) : Application :=
  let entry : RouteEntry Handler := ⟨"/api/v1/x", "get", ⟨false, none⟩, .naming "x"⟩
  ⟨{ rateLimitEnabled := false }, fun _ _ => .error (.fault f), .bare, [entry],
    Http.Mounted.plainPlaces entry⟩

/-- A handler that has looked at the session is told from one that has not; a session that
cannot be sent is said to be broken beside the handler; and a request without an address
gets no response at all. What a verifier says to be wrong with a request goes to the client
as it stands, and is not said to be broken. -/
theorem reading_tells :
    (HandlerEnds (solely [.fail leak]) midnight default (asking "") (.error leak)
          ⟨[], false, false⟩ ∧
        HandlerEnds (solely [.showSession, .fail leak]) midnight default (asking "")
          (.error leak) ⟨[], true, false⟩ ∧
        response? (serve (solely [.fail leak]) midnight default (asking "")).2 ≠
          response? (serve (solely [.showSession, .fail leak]) midnight default
            (asking "")).2) ∧
      (HandlerEnds (solely [.setInSession (.str "k") oddity, .fail leak]) midnight default
          (asking "") (.error leak) ⟨[(.str "k", oddity)], true, true⟩ ∧
        errorRecords (serve (solely [.setInSession (.str "k") oddity, .fail leak]) midnight
          default (asking "")).2.logs =
            [handlerLog (asking ""), Http.ErrorBody.brokenLog (asking "")]) ∧
      (HandlerEnds (solely [.fail leak]) midnight default (asking "ÿ") (.error leak)
          ⟨[], false, false⟩ ∧
        response? (serve (solely [.fail leak]) midnight default (asking "ÿ")).2 = none) ∧
      let x := (serve (refusing ⟨.requestValidationError, [.str "secret"]⟩) midnight default
        Application.knocking).2
      (response? x).map (fun response => (response.status, response.body)) =
          some (422, "\x7b\"detail\":\"secret\"\x7d") ∧ errorRecords x.logs = [] := by
  have hread : (after (solely [.showSession, .fail leak]) midnight default (asking "") 4).stage =
      .handling ⟨asking "", [], none⟩ [.fail leak]
        (.value (Act.object [("session", .dict [])])) := rfl
  have hset : (after (solely [.setInSession (.str "k") oddity, .fail leak]) midnight
      default (asking "") 4).stage = .handling ⟨asking "", [], none⟩ [.fail leak]
        (.value (Act.object [("set", .str "k")])) := rfl
  have hunread : ∀ query, query = "" ∨ query = "ÿ" →
      (after (solely [.fail leak]) midnight default (asking query) 3).stage =
        .handling ⟨asking query, [], none⟩ [.fail leak] (.value .none) := by
    rintro query (rfl | rfl) <;> exact rfl
  refine ⟨⟨.of_fail (hunread _ (Or.inl rfl)) rfl, .of_fail hread rfl, ?_⟩,
    ⟨.of_fail hset rfl, ?_⟩, ⟨.of_fail (hunread _ (Or.inr rfl)) rfl, ?_⟩, ?_⟩
  · decide
  · rfl
  · rfl
  · decide +kernel

end Exchange

end Gatehouse
