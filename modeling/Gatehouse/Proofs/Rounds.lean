import Gatehouse.Proofs.KeptSession
import Gatehouse.Proofs.SessionTurns

/-!
# Requests of one client, one after another

A client sends a request, waits for its response, and takes what the response says of its
session cookie into the next. `Round` is one such request with the turns in which it is
served; turns of other requests may lie in between, and time may pass.

What the gate does to a session is done before anything else could be: until then the
session is the one that came in, looked at or not (`Brought`). A rejection is answered at
once, so the next turn sends the response, and the jar is what `Jar.store` says.
-/

namespace Gatehouse

/-! ## Rejections -/

namespace Gate

variable {d : Decision} {e : ApiError} {s : Session} {r : Http.Request}

/-- The error of a decision to reject. -/
def Decision.rejection? (d : Decision) : Option ApiError :=
  match d.outcome with
  | .ok (.reject e) => some e
  | _ => none

theorem outcome_of_rejection (h : d.rejection? = some e) : d.outcome = .ok (.reject e) := by
  rw [Decision.rejection?] at h
  split at h
  · next e' houtcome =>
      injection h with h
      rw [houtcome, h]
  · cases h

/-- Without a token the session is looked at and left. -/
theorem approach_rejects {policy : Policy} (hd : approach policy r (some s) = .decided d)
    (h : d.rejection? = some e) : d.session = some s.touch ∧ e.kind = .invalidToken := by
  rw [approach] at hd
  split at hd
  · injection hd with hd
    subst hd
    cases h
  · simp only [Option.map_some] at hd
    split at hd
    · injection hd with hd
      subst hd
      injection h with h
      exact ⟨rfl, by rw [← h]⟩
    · cases hd

/-- Once a token has been judged, it is taken out of the session if it has expired. -/
theorem settle_rejects {roles : Option (List String)} {token : Datum}
    {verdict : Except Failure Verdict}
    (h : (settle r roles (some s) token verdict).rejection? = some e) :
    (settle r roles (some s) token verdict).session =
      some (if e.kind = .expiredToken then s.pop Session.tokenKey else s) := by
  cases verdict with
  | error f => cases h
  | ok verdict =>
      cases verdict with
      | expired =>
          injection h with h
          subst h
          rfl
      | invalid =>
          injection h with h
          subst h
          rfl
      | accepted i =>
          cases hunfit : unfitRole? roles i.role with
          | some typeName =>
              simp only [settle, hunfit] at h
              cases h
          | none =>
              have houtcome := outcome_of_rejection h
              simp only [settle, hunfit, grant] at houtcome ⊢
              split at houtcome
              · cases houtcome
              · split at houtcome
                · cases houtcome
                · injection houtcome with houtcome
                  injection houtcome with houtcome
                  subst houtcome
                  rfl

end Gate

namespace Exchange

variable {app : Application} {x y : Exchange} {t : Turn} {e : ApiError}

/-- The error with which the gate rejects a request in its next step at a time. -/
def rejection? (app : Application) (now : Int) (x : Exchange) : Option ApiError :=
  if x.request.hasAddress then
    match x.stage with
    | .routed m _ =>
      match Gate.approach m.entry.policy x.request (some x.session) with
      | .decided d => d.rejection?
      | .showing _ _ => none
    | .showing m _ token =>
      (Gate.settle x.request m.entry.policy.roles (some x.session) token
        (app.verifier now token)).rejection?
    | _ => none
  else none

/-- What came in with the first turn of a request. -/
def arrival? (app : Application) (r : Http.Request) (turns : List Turn) :
    Option Http.SessionCookie.Arrival :=
  turns.head?.bind fun t => app.load (Application.second t.moment.now) r

theorem arrival?_append {r : Http.Request} {turns : List Turn} {a : Http.SessionCookie.Arrival}
    (h : arrival? app r turns = some a) (more : List Turn) :
    arrival? app r (turns ++ more) = some a := by
  cases turns with
  | nil => cases h
  | cons first turns => exact h

/-- How the session of a request `r` has come to the gate in some turns: as it came in with
the first of them, and looked at once a token is shown. -/
def Brought (app : Application) (r : Http.Request) (turns : List Turn) (x : Exchange) : Prop :=
  match x.stage with
  | .arrived => turns = []
  | .routed _ _ =>
    ∃ a, arrival? app r turns = some a ∧ x.session = a.session ∧ x.carried = a.carried
  | .showing _ _ token =>
    ∃ a, arrival? app r turns = some a ∧ x.session = a.session.touch ∧ x.carried = a.carried ∧
      Gate.token? (some a.session) r.headers = some token
  | _ => True

theorem Brought.step {r : Http.Request} {turns : List Turn} (hbrought : Brought app r turns x)
    (hrequest : x.request = r) (h : Moves app t x y) : Brought app r (turns ++ [t]) y := by
  subst hrequest
  cases h with
  | finds hstage hload hplace =>
      simp only [Brought, hstage] at hbrought
      subst hbrought
      exact ⟨_, hload, rfl, rfl⟩
  | shows hstage hclosed htoken =>
      simp only [Brought, hstage] at hbrought
      obtain ⟨a, ha, hsession, hcarried⟩ := hbrought
      rw [hsession] at htoken
      exact ⟨a, arrival?_append ha [t], by rw [hsession], hcarried, htoken⟩
  | opens _ _ => trivial
  | accepts _ _ => trivial
  | calls _ => trivial
  | acts _ _ _ => trivial
  | leaves _ hleaving _ =>
      cases hstage : y.stage with
      | answered _ | done _ _ | lost => simp only [Brought, hstage]
      | _ => rw [hstage] at hleaving; cases hleaving

theorem brought_along (r : Http.Request) (turns : List Turn) :
    Brought app r turns (along app turns (ofRequest r)) := by
  induction turns using List.reverseRecOn with
  | nil => rfl
  | append_singleton turns t ih =>
      rw [along_concat]
      exact ih.step (along_request turns _) step_moves

/-- Where a rejected request stands: its response is on the way, and an expired token is out
of the session that came in. -/
structure Rejects (app : Application) (r : Http.Request) (a : Http.SessionCookie.Arrival)
    (e : ApiError) (x : Exchange) : Prop where
  request : x.request = r
  stage : x.stage =
    .answered (Http.Cors.decorate app.settings.corsOrigins r (Http.ErrorBody.ofApiError e))
  carried : x.carried = a.carried
  session : x.session =
    if e.kind = .expiredToken then a.session.touch.pop Session.tokenKey else a.session.touch

theorem step_of_hasAddress (h : x.request.hasAddress = true) (moment : Moment) (st : Standing) :
    x.step app moment st = x.stepAddressed app moment st := by
  simp only [step, h, Bool.not_true, Bool.false_and, Bool.false_eq_true, ↓reduceIte]

theorem heed_rejects {m : Http.Mounted Handler} {params : List (String × Datum)}
    {d : Gate.Decision} {a : Http.SessionCookie.Arrival} (h : d.rejection? = some e)
    (hcarried : x.carried = a.carried)
    (hsession : d.session = some
      (if e.kind = .expiredToken then a.session.touch.pop Session.tokenKey else a.session.touch)) :
    (x.heed app m params d).Rejects app x.request a e := by
  rw [heed, Gate.outcome_of_rejection h]
  refine ⟨rfl, rfl, hcarried, ?_⟩
  rw [hsession]
  rfl

theorem step_of_rejection {r : Http.Request} {turns : List Turn}
    (hbrought : Brought app r turns x) (hrequest : x.request = r)
    (h : x.rejection? app t.moment.now = some e) :
    ∃ a, arrival? app r turns = some a ∧
      (x.step app t.moment t.standing).2.Rejects app r a e := by
  subst hrequest
  rw [rejection?] at h
  split at h
  · next haddress =>
      rw [step_of_hasAddress haddress]
      split at h
      · next m params hstage =>
          simp only [Brought, hstage] at hbrought
          obtain ⟨a, ha, hsession, hcarried⟩ := hbrought
          refine ⟨a, ha, ?_⟩
          simp only [stepAddressed, hstage, approach]
          cases happroach : Gate.approach m.entry.policy x.request (some x.session) with
          | decided d =>
              simp only [happroach] at h ⊢
              obtain ⟨hlooked, hkind⟩ := Gate.approach_rejects happroach h
              refine heed_rejects h hcarried ?_
              rw [hlooked, hsession, hkind]
              rfl
          | showing token session =>
              simp only [happroach] at h
              cases h
      · next m params token hstage =>
          simp only [Brought, hstage] at hbrought
          obtain ⟨a, ha, hsession, hcarried, -⟩ := hbrought
          refine ⟨a, ha, ?_⟩
          simp only [stepAddressed, hstage, judge]
          refine heed_rejects h hcarried ?_
          rw [Gate.settle_rejects h, hsession]
      · cases h
  · cases h

theorem along_append (turns more : List Turn) (x : Exchange) :
    along app (turns ++ more) x = along app more (along app turns x) := List.foldl_append

theorem along_cons (t : Turn) (rest : List Turn) (x : Exchange) :
    along app (t :: rest) x = along app rest (x.step app t.moment t.standing).2 := rfl

/-- A response on its way is sent in the next turn, and then nothing changes any more. -/
theorem along_of_answered {response : Http.Response} (haddress : x.request.hasAddress = true)
    (hstage : x.stage = .answered response) (t : Turn) (rest : List Turn) :
    along app (t :: rest) x = x.send app t.moment.now response := by
  have hstep : (x.step app t.moment t.standing).2 = x.send app t.moment.now response := by
    rw [step_of_hasAddress haddress]
    simp only [stepAddressed, hstage]
  rw [along_cons, hstep]
  refine along_of_isOver rest (send_isOver app t.moment.now x response) fun _ _ _ => ?_
  rw [(x.send_settles t.moment.now response).request]
  exact haddress

/-- Sending a response takes the session to the jar. -/
theorem send_of_store {response : Http.Response} {now : Int} {j kept : Http.Jar}
    (hkeep : j.keep response = j)
    (hstore : j.store app.settings.secretKey (Application.second now).toNat x.carried x.session =
      .ok kept) :
    ∃ sent, (x.send app now response).stage = .done sent false ∧ j.keep sent = kept := by
  rw [← hkeep, ← Http.Jar.keep_save app.settings.secureCookies response] at hstore
  obtain ⟨sent, hsave, hkept⟩ := exists_of_map_eq_ok hstore
  refine ⟨sent, ?_, hkept⟩
  rw [send, hsave]

end Exchange

/-! ## Rounds -/

/-- One request of a client, and the turns in which it is served. -/
structure Round where
  request : Http.Request
  turns : List Turn

namespace Round

variable {app : Application} {j : Http.Jar} {v : Round} {e : ApiError}

/-- The request as the client sends it with this jar. -/
def sent (v : Round) (j : Http.Jar) : Http.Request := j.attach v.request

/-- What has become of the request in some turns. -/
def along (v : Round) (app : Application) (j : Http.Jar) (turns : List Turn) : Exchange :=
  Exchange.along app turns (.ofRequest (v.sent j))

/-- The jar after the request has been served. -/
def jarAfter (v : Round) (app : Application) (j : Http.Jar) : Http.Jar :=
  match (v.along app j v.turns).response? with
  | some response => j.keep response
  | none => j

/-- The session that the request sees when it comes in. -/
def session? (v : Round) (app : Application) (j : Http.Jar) : Option Session :=
  (Exchange.arrival? app (v.sent j) v.turns).map (·.session)

/-- Whether a round is one of a client that has kept this jar: the request has no cookies but
the jar's, it is served to its end, at times that are in the calendar, and it comes in while
what is in the jar is good. -/
structure IsFrom (v : Round) (app : Application) (j : Http.Jar) : Prop where
  bare : v.request.headers.first? "cookie" = none
  complete : Exchange.enough app ≤ v.turns.length
  calendar : ∀ t ∈ v.turns, Application.second t.moment.now ≤ Http.SessionCookie.lastSecond
  fresh : ∀ t ∈ v.turns.head?, j.IsFresh app.settings.secretKey (Application.second t.moment.now)

/-- Whether the gate rejects the request with an error, in any of its turns. -/
def Rejected (v : Round) (app : Application) (j : Http.Jar) (e : ApiError) : Prop :=
  ∃ before t after, v.turns = before ++ t :: after ∧
    (v.along app j before).rejection? app t.moment.now = some e

/-- The session that a request sees is the one in the jar. -/
theorem IsFrom.arrival?_eq (h : v.IsFrom app j) :
    Exchange.arrival? app (v.sent j) v.turns =
      (j.held? app.framework.depth app.settings.secretKey).map fun entries =>
        ⟨.ofEntries entries, (j.signed? app.settings.secretKey).isSome⟩ := by
  have hcomplete := h.complete
  have hfresh := h.fresh
  rw [Exchange.arrival?]
  cases hturns : v.turns with
  | nil =>
      rw [hturns, List.length_nil, Exchange.enough] at hcomplete
      omega
  | cons first rest =>
      rw [hturns] at hfresh
      exact Http.Jar.load_attach_of_isFresh h.bare (hfresh first rfl)

theorem IsFrom.session?_eq (h : v.IsFrom app j) :
    v.session? app j = (j.held? app.framework.depth app.settings.secretKey).map .ofEntries := by
  rw [session?, h.arrival?_eq, Option.map_map]
  rfl

/-- A rejected request leaves the jar with the session that came in, and an expired token is
out of it. -/
theorem jarAfter_of_rejected (hfrom : v.IsFrom app j) (hrejected : v.Rejected app j e) :
    ∃ entries, ∃ t ∈ v.turns, j.held? app.framework.depth app.settings.secretKey = some entries ∧
      ∀ kept, j.store app.settings.secretKey (Application.second t.moment.now).toNat
          (j.signed? app.settings.secretKey).isSome
          (if e.kind = .expiredToken then (Session.ofEntries entries).touch.pop Session.tokenKey
            else (Session.ofEntries entries).touch) = .ok kept → v.jarAfter app j = kept := by
  obtain ⟨before, t, after, hturns, hrejection⟩ := hrejected
  have hrequest : (v.along app j before).request = v.sent j := Exchange.along_request before _
  obtain ⟨a, ha, hrejects⟩ := Exchange.step_of_rejection (t := t)
    (Exchange.brought_along (v.sent j) before) hrequest hrejection
  have haddress : (v.sent j).hasAddress = true := by
    rw [Exchange.rejection?, hrequest] at hrejection
    split at hrejection
    · assumption
    · cases hrejection
  rw [← Round.along] at hrejects
  -- the response is not sent yet, so there is a turn left
  obtain ⟨u, rest, rfl⟩ : ∃ u rest, after = u :: rest := by
    cases after with
    | cons u rest => exact ⟨u, rest, rfl⟩
    | nil =>
        have hover : (v.along app j v.turns).stage.isOver = true :=
          Exchange.along_isOver hfrom.complete (v.sent j)
        rw [hturns, along, Exchange.along_concat, ← along, hrejects.stage] at hover
        cases hover
  have hend : v.along app j (before ++ t :: u :: rest) =
      ((v.along app j before).step app t.moment t.standing).2.send app u.moment.now
        (Http.Cors.decorate app.settings.corsOrigins (v.sent j)
          (Http.ErrorBody.ofApiError e)) := by
    rw [along, Exchange.along_append, Exchange.along_cons, ← along]
    refine Exchange.along_of_answered ?_ hrejects.stage u rest
    rw [hrejects.request]
    exact haddress
  have harrival := Exchange.arrival?_append ha (t :: u :: rest)
  rw [← hturns, hfrom.arrival?_eq] at harrival
  obtain ⟨entries, hheld, rfl⟩ := Option.map_eq_some_iff.mp harrival
  refine ⟨entries, u, by rw [hturns]; simp, hheld, fun kept hstore => ?_⟩
  generalize ((v.along app j before).step app t.moment t.standing).2 = y at hrejects hend
  have hkeep : j.keep (Http.Cors.decorate app.settings.corsOrigins (v.sent j)
      (Http.ErrorBody.ofApiError e)) = j := by
    rw [Http.Jar.keep_decorate, Http.Jar.keep_ofApiError]
  have hcarried : y.carried = (j.signed? app.settings.secretKey).isSome := hrejects.carried
  rw [← hrejects.session, ← hcarried] at hstore
  obtain ⟨sent, hdone, hkept⟩ := Exchange.send_of_store hkeep hstore
  rw [jarAfter, hturns, hend, Exchange.response?, hdone]
  exact hkept

/-- After a rejection the jar holds what it held before, but an expired token. -/
theorem held?_of_rejected (hfrom : v.IsFrom app j)
    (hobject : j.HoldsObject app.framework.depth app.settings.secretKey)
    (hrejected : v.Rejected app j e) :
    ∃ entries, j.held? app.framework.depth app.settings.secretKey = some entries ∧
      (v.jarAfter app j).held? app.framework.depth app.settings.secretKey = some
        (if e.kind = .expiredToken then Value.eraseEntry Session.tokenKey entries
          else entries) := by
  obtain ⟨entries, t, ht, hheld, hjar⟩ := jarAfter_of_rejected hfrom hrejected
  have hsecond : (Application.second t.moment.now).toNat < 2 ^ 64 := by
    have hcalendar := hfrom.calendar t ht
    rw [Http.SessionCookie.lastSecond] at hcalendar
    omega
  refine ⟨entries, hheld, ?_⟩
  split
  · next hkind =>
      rw [if_pos hkind] at hjar
      obtain ⟨kept, hstore, hkept⟩ :=
        Http.Jar.held?_store_pop hobject hheld hsecond "token"
      rw [hjar kept hstore]
      exact hkept
  · next hkind =>
      rw [if_neg hkind] at hjar
      rw [hjar j (Http.Jar.store_of_unchanged rfl)]
      exact hheld

/-! ## Rounds of any kind -/

theorem along_concat (v : Round) (before : List Turn) (t : Turn) :
    v.along app j (before ++ [t]) =
      ((v.along app j before).step app t.moment t.standing).2 := Exchange.along_concat before t _

/-- What a round may leave in the jar: what its response, once it was made, says of the session
cookie, and then the session that it takes along. -/
inductive Delivers (v : Round) (app : Application) (j : Http.Jar) : Http.Jar → Prop
  | mk {before after : List Turn} {t : Turn} {made : Http.Response} {second : Nat}
      {kept : Http.Jar} (hturns : v.turns = before ++ t :: after)
      (hmade : (v.along app j before).stage = .answered made)
      (hstore : (j.keep made).store app.settings.secretKey second (v.along app j before).carried
        (v.along app j before).session = .ok kept) : Delivers v app j kept

theorem keep_of_done {before after : List Turn} (hturns : v.turns = before ++ after)
    {response : Http.Response} {broken : Bool}
    (hdone : (v.along app j before).stage = .done response broken) :
    j.keep response = j ∨ v.Delivers app j (j.keep response) := by
  induction before using List.reverseRecOn generalizing after with
  | nil => cases hdone
  | append_singleton before t ih =>
      rw [List.append_assoc, List.singleton_append] at hturns
      rw [along_concat] at hdone
      rcases Exchange.eq_or_of_step_done hdone with hbefore | rfl | ⟨made, hmade, hsave⟩
      · exact ih hturns hbefore
      · exact Or.inl (Http.Jar.keep_ofApiError _ j)
      · have hkept : (j.keep made).store app.settings.secretKey
            (Application.second t.moment.now).toNat (v.along app j before).carried
            (v.along app j before).session = .ok (j.keep response) := by
          rw [← Http.Jar.keep_save app.settings.secureCookies made, hsave]
          rfl
        exact Or.inr (.mk hturns hmade hkept)

theorem jarAfter_eq_or (v : Round) (app : Application) (j : Http.Jar) :
    v.jarAfter app j = j ∨ v.Delivers app j (v.jarAfter app j) := by
  rw [jarAfter]
  cases hresponse : (v.along app j v.turns).response? with
  | none => exact Or.inl rfl
  | some response =>
      rw [Exchange.response?] at hresponse
      split at hresponse
      · next response' broken hdone =>
          injection hresponse with hresponse
          subst hresponse
          exact keep_of_done (List.append_nil _).symm hdone
      · cases hresponse

/-- Whether no response of a round, as it was made, sets a session cookie of its own to
something that is not an object. -/
def LeavesObjects (v : Round) (app : Application) (j : Http.Jar) : Prop :=
  ∀ before after made, v.turns = before ++ after →
    (v.along app j before).stage = .answered made →
      (Http.Jar.empty.keep made).HoldsObject app.framework.depth app.settings.secretKey

theorem holdsObject_jarAfter (hj : j.HoldsObject app.framework.depth app.settings.secretKey)
    (hmade : v.LeavesObjects app j) :
    (v.jarAfter app j).HoldsObject app.framework.depth app.settings.secretKey := by
  rcases v.jarAfter_eq_or app j with h | ⟨hturns, hanswered, hstore⟩
  · rwa [h]
  · exact (Http.Jar.keep_of hj (hmade _ _ _ hturns hanswered)).store hstore

/-- The jars that a client comes to who began without a cookie. -/
inductive Reaches (app : Application) : Http.Jar → Prop
  | empty : Reaches app .empty
  | round {j : Http.Jar} {v : Round} (hj : Reaches app j) (hmade : v.LeavesObjects app j) :
      Reaches app (v.jarAfter app j)

theorem Reaches.holdsObject (h : Reaches app j) :
    j.HoldsObject app.framework.depth app.settings.secretKey := by
  induction h with
  | empty => exact Http.Jar.holdsObject_empty
  | round _ hmade ih => exact holdsObject_jarAfter ih hmade

end Round

end Gatehouse
