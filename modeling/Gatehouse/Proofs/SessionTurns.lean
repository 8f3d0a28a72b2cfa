import Gatehouse.Proofs.Turns

/-!
# What a turn makes of a session

A turn leaves the session of its request alone, or does one thing to it: it finds it, looks at
it, takes the token out of it, or lets a handler act on it (`Treats`). The rest of the turn
only goes on with what was made (`GoesOn`).
-/

namespace Gatehouse

namespace Gate

variable {policy : Policy} {r : Http.Request} {s : Session}

theorem approach_decided_session {d : Decision} (h : approach policy r (some s) = .decided d) :
    d.session = some s ∨ d.session = some s.touch := by
  rw [approach] at h
  split at h
  · injection h with h
    exact Or.inl (by rw [← h])
  · simp only [Option.map_some] at h
    split at h
    · injection h with h
      exact Or.inr (by rw [← h])
    · cases h

theorem approach_showing_session {token : Datum} {looked : Option Session}
    (h : approach policy r (some s) = .showing token looked) : looked = some s.touch := by
  rw [approach] at h
  split at h
  · cases h
  · simp only [Option.map_some] at h
    split at h
    · cases h
    · injection h with _ h
      exact h.symm

theorem settle_session (roles : Option (List String)) (token : Datum)
    (verdict : Except Failure Verdict) :
    (settle r roles (some s) token verdict).session = some s ∨
      (settle r roles (some s) token verdict).session = some (s.pop Session.tokenKey) := by
  rw [settle.eq_def]
  split
  · exact Or.inl rfl
  · exact Or.inr rfl
  · exact Or.inl rfl
  · split <;> exact Or.inl rfl

end Gate

namespace Exchange

variable {app : Application} {x y : Exchange} {t : Turn} {s : Session} {e : ApiError}

/-- What one turn may make of the session of a request. -/
inductive Treats (app : Application) (t : Turn) (x : Exchange) : Session → Prop
  | leaves : Treats app t x x.session
  | finds {a : Http.SessionCookie.Arrival}
      (hload : app.load (Application.second t.moment.now)
        x.request = some a) : Treats app t x a.session
  | looks : Treats app t x x.session.touch
  | pops : Treats app t x (x.session.pop Session.tokenKey)
  | acts {visit : Visit} {a : Act} {rest : List Act} {last : Reply}
      (hstage : x.stage = .handling visit (a :: rest) last) :
      Treats app t x
        (a.run visit (x.around app t.moment t.standing) last x.session).session

/-- `y` goes on with a session. If there is nothing more to do for it, something broke. -/
structure GoesOn (s : Session) (y : Exchange) : Prop where
  session : y.session = s
  broke : ∀ response broken, y.stage = .done response broken →
    response = Http.ErrorBody.ofApiError ⟨.unclassified, ""⟩

section

variable (h : x.session = s)

include h

theorem breakOff_goesOn : GoesOn s x.breakOff := by
  refine ⟨h, fun response broken hdone => ?_⟩
  injection hdone with hdone
  exact hdone.symm

theorem respond_goesOn {response : Http.Response} : GoesOn s (x.respond app response) :=
  ⟨h, fun _ _ hdone => by cases hdone⟩

theorem respondError_goesOn : GoesOn s (x.respondError app e) :=
  ⟨h, fun _ _ hdone => by cases hdone⟩

theorem respondStatus_goesOn {code : Int} {detail : Datum} {headers : List (String × String)} :
    GoesOn s (x.respondStatus app code detail headers) := by
  rw [respondStatus]
  split
  · exact respond_goesOn h
  · exact breakOff_goesOn h

theorem respondFault_goesOn {f : Fault} : GoesOn s (x.respondFault app f) := by
  rw [respondFault]
  split
  · exact respond_goesOn h
  · exact breakOff_goesOn h

theorem failAtGate_goesOn {f : Failure} : GoesOn s (x.failAtGate app f) := by
  cases f with
  | api e => exact respondError_goesOn h
  | status code detail headers => exact respondStatus_goesOn h
  | limited limit seconds => exact respond_goesOn h
  | fault f => exact respondFault_goesOn h

theorem failInHandler_goesOn {f : Failure} : GoesOn s (x.failInHandler app f) := by
  cases f with
  | api e => exact respondError_goesOn h
  | status code detail headers => exact respondStatus_goesOn h
  | limited limit seconds => exact respond_goesOn h
  | fault f => exact respondError_goesOn h

theorem conclude_goesOn {reply : Reply} : GoesOn s (x.conclude app reply) := by
  rw [conclude.eq_def]
  split
  · exact respond_goesOn h
  · exact respondError_goesOn h
  · exact respond_goesOn h
  · split
    · exact respond_goesOn h
    · exact breakOff_goesOn h

theorem enter_goesOn : GoesOn s (x.enter app) := by
  rw [enter]
  split
  · exact ⟨h, fun _ _ hdone => by cases hdone⟩
  · rw [route]
    split
    · exact respond_goesOn h
    · exact ⟨h, fun _ _ hdone => by cases hdone⟩
    · exact respond_goesOn h
    · exact breakOff_goesOn h
    · exact respond_goesOn h

theorem meter_goesOn {moment : Moment} {st : Standing} : GoesOn s (x.meter app moment st).2 := by
  rw [meter]
  split
  · exact breakOff_goesOn h
  · split
    · split
      · exact breakOff_goesOn h
      · split
        · exact enter_goesOn h
        · exact ⟨h, fun _ _ hdone => by cases hdone⟩
        · exact breakOff_goesOn h
    · exact enter_goesOn h

end

theorem heed_goesOn {m : Http.Mounted Handler} {params : List (String × Datum)}
    {d : Gate.Decision} (h : d.session = some s) : GoesOn s (x.heed app m params d) := by
  rw [heed, h]
  split
  · exact ⟨rfl, fun _ _ hdone => by cases hdone⟩
  · exact respondError_goesOn (by rfl)
  · exact failAtGate_goesOn (by rfl)

theorem approach_of_showing {m : Http.Mounted Handler} {params : List (String × Datum)}
    {token : Datum}
    (h : Gate.approach m.entry.policy x.request (some x.session) = .showing token (some s)) :
    x.approach app m params = { x with session := s, stage := .showing m params token } := by
  rw [approach, h]
  rfl

theorem stepAddressed_treats (hstage : x.stage.isLeaving = false) :
    ∃ s, Treats app t x s ∧ GoesOn s (x.stepAddressed app t.moment t.standing).2 := by
  cases hx : x.stage with
  | arrived =>
      simp only [stepAddressed, hx, arrive]
      split
      · exact ⟨_, .leaves, breakOff_goesOn rfl⟩
      · next a hload => exact ⟨_, .finds hload, meter_goesOn (by rfl)⟩
  | routed m params =>
      simp only [stepAddressed, hx, approach]
      split
      · next d happroach =>
          rcases Gate.approach_decided_session happroach with hsession | hsession
          · exact ⟨_, .leaves, heed_goesOn hsession⟩
          · exact ⟨_, .looks, heed_goesOn hsession⟩
      · next token session happroach =>
          rw [Gate.approach_showing_session happroach]
          exact ⟨_, .looks, rfl, fun _ _ hdone => by cases hdone⟩
  | showing m params token =>
      simp only [stepAddressed, hx, judge]
      rcases Gate.settle_session (r := x.request) (s := x.session) m.entry.policy.roles token
        (app.verifier t.moment.now token) with hsession | hsession
      · exact ⟨_, .leaves, heed_goesOn hsession⟩
      · exact ⟨_, .pops, heed_goesOn hsession⟩
  | passed m params i =>
      simp only [stepAddressed, hx]
      exact ⟨_, .leaves, rfl, fun _ _ hdone => by cases hdone⟩
  | handling visit acts last =>
      cases acts with
      | nil =>
          simp only [stepAddressed, hx]
          exact ⟨_, .leaves, conclude_goesOn rfl⟩
      | cons a rest =>
          simp only [stepAddressed, hx, act]
          refine ⟨_, .acts hx, ?_⟩
          split
          · exact ⟨rfl, fun _ _ hdone => by cases hdone⟩
          · exact failInHandler_goesOn (by rfl)
  | _ => rw [hx] at hstage; cases hstage

theorem send_session (app : Application) (now : Int) (x : Exchange) (response : Http.Response) :
    (x.send app now response).session = x.session := by
  rw [send]
  split <;> rfl

theorem step_treats : ∃ s, Treats app t x s ∧ (x.step app t.moment t.standing).2.session = s := by
  have hnext : ∃ s, Treats app t x s ∧
      (x.stepAddressed app t.moment t.standing).2.session = s := by
    cases hleaving : x.stage.isLeaving with
    | false =>
        obtain ⟨s, htreats, hgoes⟩ : ∃ s, Treats app t x s ∧
          GoesOn s (x.stepAddressed app t.moment t.standing).2 := stepAddressed_treats hleaving
        exact ⟨s, htreats, hgoes.session⟩
    | true =>
        refine ⟨_, .leaves, ?_⟩
        cases hstage : x.stage with
        | answered response =>
            simp only [stepAddressed, hstage]
            exact send_session app t.moment.now x response
        | done response broken => simp only [stepAddressed, hstage]
        | lost => simp only [stepAddressed, hstage]
        | _ => rw [hstage] at hleaving; cases hleaving
  simp only [step]
  split
  · exact hnext
  · exact hnext

/-- Where a response comes from that has been sent. -/
theorem eq_or_of_step_done {response : Http.Response} {broken : Bool}
    (h : (x.step app t.moment t.standing).2.stage = .done response broken) :
    x.stage = .done response broken ∨
      response = Http.ErrorBody.ofApiError ⟨.unclassified, ""⟩ ∨
      ∃ made, x.stage = .answered made ∧
        Http.SessionCookie.save app.settings.secretKey app.settings.secureCookies
          (Application.second t.moment.now).toNat x.carried x.session made = .ok response := by
  have hnext : (x.stepAddressed app t.moment t.standing).2.stage = .done response broken := by
    simp only [step] at h
    split at h
    · cases h
    · exact h
  cases hleaving : x.stage.isLeaving with
  | false =>
      obtain ⟨s, -, hgoes⟩ : ∃ s, Treats app t x s ∧
        GoesOn s (x.stepAddressed app t.moment t.standing).2 := stepAddressed_treats hleaving
      exact Or.inr (Or.inl (hgoes.broke response broken hnext))
  | true =>
      cases hstage : x.stage with
      | answered made =>
          simp only [stepAddressed, hstage, send] at hnext
          split at hnext
          · injection hnext with hnext
            exact Or.inr (Or.inl hnext.symm)
          · next sent hsave =>
              injection hnext with hnext
              subst hnext
              exact Or.inr (Or.inr ⟨made, rfl, hsave⟩)
      | done response broken =>
          simp only [stepAddressed, hstage] at hnext
          exact Or.inl hnext
      | lost =>
          simp only [stepAddressed, hstage] at hnext
          cases hnext
      | _ => rw [hstage] at hleaving; cases hleaving

end Exchange

end Gatehouse
