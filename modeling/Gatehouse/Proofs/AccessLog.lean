import Gatehouse.Proofs.Endings
import Gatehouse.Proofs.Interleaving

/-!
# A line for each response

The access log gets its line when a response is sent, and nothing else writes to it. So a
request never has two lines, it has none before its response is sent, and its line tells the
status that the client gets, whatever the verifier and the handler do and whoever else is
served meanwhile.

What breaks a request off is answered outside of all this, and for such a response there is
no line at all. Which these are is known turn by turn (`Exchange.BreaksOff`), so that the
responses without a line are told exactly.
-/

namespace Gatehouse

namespace Exchange

variable {app : Application} {t : Turn} {x y : Exchange} {r : Http.Request} {turns : List Turn}
  {response : Http.Response}

/-- The access log has a line just if the response has been sent, and then for its status. -/
def Logged (x : Exchange) : Prop :=
  accessRecords x.logs =
    match x.stage with
    | .done response false => [x.accessLog response.status]
    | _ => []

theorem Logged.eq_nil (h : x.Logged) (hunsent : ∀ response, x.stage ≠ .done response false) :
    accessRecords x.logs = [] := by
  rw [Logged] at h
  split at h
  · next response hdone => exact absurd hdone (hunsent response)
  · exact h

theorem Logged.of_eq_nil (h : accessRecords x.logs = [])
    (hunsent : ∀ response, x.stage ≠ .done response false) : x.Logged := by
  rw [Logged, h]
  split
  · next response hdone => exact absurd hdone (hunsent response)
  · rfl

theorem ne_done_of_isOver (h : x.stage.isOver = false) (response : Http.Response)
    (broken : Bool) : x.stage ≠ .done response broken := by
  intro hdone
  rw [hdone] at h
  cases h

/-- The line is written when the response is sent. -/
theorem Fares.logged (h : Fares app t x y) (hx : x.Logged) : y.Logged := by
  have hsilent : ∀ {y : Exchange}, x.stage.isOver = false → x.Silent y →
      (∀ response, y.stage ≠ .done response false) → y.Logged := fun hbefore hsilent hunsent =>
    .of_eq_nil (hsilent.access.trans (hx.eq_nil fun response => ne_done_of_isOver hbefore
      response false)) hunsent
  cases h with
  | goesOn hbefore hquiet hstage =>
      exact hsilent (isOver_of_isLeaving hbefore) hquiet fun response =>
        ne_done_of_isOver (isOver_of_isLeaving hstage) response false
  | answers hbefore hquiet _ hstage =>
      refine hsilent (isOver_of_isLeaving hbefore) hquiet fun response hdone => ?_
      rw [hstage] at hdone
      cases hdone
  | breaks hbefore hquiet _ hstage =>
      refine hsilent hbefore hquiet fun response hdone => ?_
      rw [hstage] at hdone
      cases hdone
  | sends hbefore hrequest _ hlogs hstage =>
      have hnone : accessRecords x.logs = [] :=
        hx.eq_nil fun response => ne_done_of_isOver (by rw [hbefore]; rfl) response false
      rw [Logged, hstage, hlogs, accessRecords_append, hnone]
      simp only [accessLog, hrequest]
      rfl
  | rests _ heq => rw [heq]; exact hx

theorem logged_along (app : Application) (turns : List Turn) (r : Http.Request) :
    (along app turns (ofRequest r)).Logged := by
  induction turns using List.reverseRecOn with
  | nil => rfl
  | append_singleton turns t ih =>
      rw [along_concat]
      simp only [step]
      split
      · next hlost =>
          -- a request without an address has no response that could have been sent
          have haddress : r.hasAddress = false := by
            rw [along_request] at hlost
            simpa [ofRequest] using (Bool.and_eq_true_iff.mp hlost).1
          refine .of_eq_nil (ih.eq_nil fun response hdone => ?_) fun response hdone => ?_
          · rw [along_done_hasAddress hdone] at haddress
            cases haddress
          · cases hdone
      · exact (stepAddressed_fares app t _).logged ih

/-! ## Responses without a line -/

theorem stepAddressed_done_iff :
    (x.stepAddressed app t.moment t.standing).2.stage = .done response true ↔
      (response = canned ∧ x.BreaksOff app t) ∨ x.stage = .done response true := by
  constructor
  · intro hdone
    cases stepAddressed_fares app t x with
    | goesOn _ _ hstage => rw [hdone] at hstage; cases hstage
    | answers _ _ _ hstage => rw [hdone] at hstage; cases hstage
    | breaks _ _ hbreaks hstage =>
        rw [hdone] at hstage
        injection hstage with hresponse
        exact Or.inl ⟨hresponse, hbreaks⟩
    | sends _ _ _ _ hstage => rw [hdone] at hstage; cases hstage
    | rests _ heq => rw [heq] at hdone; exact Or.inr hdone
  · rintro (⟨rfl, hbreaks⟩ | hdone)
    · exact hbreaks.stage_eq
    · rw [stepAddressed, hdone]
      exact hdone

/-- A request breaks off just if it does so at one of its turns. -/
theorem along_done_iff (haddress : r.hasAddress = true) :
    (along app turns (ofRequest r)).stage = .done response true ↔
      response = canned ∧ AtSomeTurn app turns r fun t x => x.BreaksOff app t := by
  induction turns using List.reverseRecOn with
  | nil =>
      constructor
      · intro hdone
        cases hdone
      · exact fun h => absurd h.2 not_atSomeTurn_nil
  | append_singleton turns t ih =>
      rw [along_stepAddressed haddress, stepAddressed_done_iff, ih, atSomeTurn_concat,
        ← and_or_left, or_comm]

theorem along_ne_lost (haddress : r.hasAddress = true) :
    (along app turns (ofRequest r)).stage ≠ .lost := by
  induction turns using List.reverseRecOn with
  | nil =>
      intro hlost
      cases hlost
  | append_singleton turns t ih =>
      rw [along_stepAddressed haddress]
      intro hlost
      cases stepAddressed_fares app t (along app turns (ofRequest r)) with
      | goesOn _ _ hstage => rw [hlost] at hstage; cases hstage
      | answers _ _ _ hstage => rw [hlost] at hstage; cases hstage
      | breaks _ _ _ hstage => rw [hlost] at hstage; cases hstage
      | sends _ _ _ _ hstage => rw [hlost] at hstage; cases hstage
      | rests _ heq => rw [heq] at hlost; exact ih hlost

/-- A request that has an address gets a response, if it gets enough turns. -/
theorem exists_response (haddress : r.hasAddress = true) (hlen : enough app ≤ turns.length) :
    ∃ response, response? (along app turns (ofRequest r)) = some response := by
  have hover := along_isOver hlen r
  cases hstage : (along app turns (ofRequest r)).stage with
  | done response broken => exact ⟨response, response?_eq_some_iff.mpr ⟨broken, hstage⟩⟩
  | lost => exact absurd hstage (along_ne_lost haddress)
  | _ => rw [hstage] at hover; cases hover

/-- What the access log tells of a request is settled with its response. -/
theorem accessRecords_of_response (h : response? (along app turns (ofRequest r)) = some response) :
    (accessRecords (along app turns (ofRequest r)).logs =
        [(ofRequest r).accessLog response.status] ∧
      ¬ AtSomeTurn app turns r fun t x => x.BreaksOff app t) ∨
    (accessRecords (along app turns (ofRequest r)).logs = [] ∧ response = canned ∧
      AtSomeTurn app turns r fun t x => x.BreaksOff app t) := by
  obtain ⟨broken, hdone⟩ := response?_eq_some_iff.mp h
  have hlogged := logged_along app turns r
  have haddress := along_done_hasAddress hdone
  rw [Logged, hdone] at hlogged
  cases broken with
  | false =>
      refine Or.inl ⟨?_, fun hbroke => ?_⟩
      · simp only [accessLog, along_request] at hlogged
        exact hlogged
      · rw [(along_done_iff haddress).mpr ⟨rfl, hbroke⟩] at hdone
        cases hdone
  | true => exact Or.inr ⟨hlogged, (along_done_iff haddress).mp hdone⟩

end Exchange

namespace Pool

variable {app : Application}

open Exchange

/-- Of each request that is served, in whatever company and with whatever verifier and
handlers, the access log has no line before the response, and then just the line for its
method, its path and its status, unless the request broke off at one of its turns: then the
response is the canned one, and there is no line. Enough turns bring a response to every
request that has an address. -/
theorem logged_once_unless_broken (app : Application) (st : Standing) (rs : List Http.Request)
    (schedule : List (Nat × Moment)) {i : Nat} {r : Http.Request} (hr : rs[i]? = some r) :
    ∃ turns : List Turn, turns.map (·.moment) = momentsOf i schedule ∧
      ∃ x, ((ofRequests st rs).runTimed app schedule).exchanges[i]? = some x ∧
        x = along app turns (ofRequest r) ∧
        (response? x = none → accessRecords x.logs = []) ∧
        (∀ response, response? x = some response →
          (accessRecords x.logs = [(ofRequest r).accessLog response.status] ∧
            ¬ AtSomeTurn app turns r fun t x => x.BreaksOff app t) ∨
          (accessRecords x.logs = [] ∧ response = canned ∧
            AtSomeTurn app turns r fun t x => x.BreaksOff app t)) ∧
        (r.hasAddress = true → enough app ≤ (momentsOf i schedule).length →
          ∃ response, response? x = some response) := by
  obtain ⟨turns, hmoments, hx⟩ :=
    exists_turns_runTimed app (ofRequests_of_getElem? st hr) schedule
  refine ⟨turns, hmoments, _, hx, rfl, fun hnone => ?_, fun response hsome =>
    accessRecords_of_response hsome, fun haddress henough => ?_⟩
  · refine (logged_along app turns r).eq_nil fun response hdone => ?_
    rw [response?_eq_some_iff.mpr ⟨false, hdone⟩] at hnone
    cases hnone
  · refine exists_response haddress ?_
    rw [← hmoments, List.length_map] at henough
    exact henough

/-- Two requests whose handler gives back an error, one turn of the one between two of the
other. -/
theorem refused_logged_once :
    [asking "", asking "q"][1]? = some (asking "q") ∧
      ∃ x response, ((ofRequests default [asking "", asking "q"]).runTimed
          (solely [.giveError ⟨.invalidRequest, "a"⟩])
          ((inTurns 2 7).map (·, midnight))).exchanges[1]? = some x ∧
        response? x = some response ∧ response.status = 400 ∧
        accessRecords x.logs = [⟨"routeforge.api", .info, "GET /api/v1/x 400 unknown"⟩] := by
  obtain ⟨turns, -, x, hx, -, -, hrecords, hresponse⟩ :=
    logged_once_unless_broken (solely [.giveError ⟨.invalidRequest, "a"⟩]) default
      [asking "", asking "q"] ((inTurns 2 7).map (·, midnight)) (i := 1) rfl
  obtain ⟨response, hsome⟩ := hresponse rfl (by decide)
  have hstatus : (((ofRequests default [asking "", asking "q"]).runTimed
      (solely [.giveError ⟨.invalidRequest, "a"⟩])
      ((inTurns 2 7).map (·, midnight))).exchanges[1]?.bind response?).map (·.status) =
        some 400 := by
    decide +kernel
  rw [hx, Option.bind_some, hsome] at hstatus
  replace hstatus : response.status = 400 := Option.some.inj hstatus
  refine ⟨rfl, x, response, hx, hsome, hstatus, ?_⟩
  rcases hrecords response hsome with ⟨hline, -⟩ | ⟨-, rfl, -⟩
  · rw [hline, hstatus]
    decide
  · rw [canned_eq] at hstatus
    cases hstatus

end Pool

/-- A handler that gives back what cannot be written down leaves a response of which the
access log does not tell. -/
theorem Exchange.oddity_unlogged :
    response? (serve (solely [.give oddity]) midnight default (asking "")).2 = some canned ∧
      accessRecords (serve (solely [.give oddity]) midnight default (asking "")).2.logs = [] := by
  decide

end Gatehouse
