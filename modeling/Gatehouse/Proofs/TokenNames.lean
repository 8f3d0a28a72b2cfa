import Gatehouse.Proofs.SharedSession

/-!
# Tokens under other names

What a token is made of concerns the verifier alone. The gate asks whether there is one, in the
session or behind the mark of a header, and hands it over; what it does then depends on the
answer, and what it says names the request and the identity, never the token.

So all tokens may be given other names, different ones for different tokens, if the verifier
learns the new names too (`Renaming`): in the headers, in the sessions and in the answers of the
verifier. No part of a call notices: where a token is found (`token?_rename`), what becomes of
the session (`session_pop`), the decision (`check_rename`). From call to call this stays so,
whoever shares a session with whom (`attend_rename`).
-/

namespace Gatehouse

namespace Gate

/-- Another name for every token: a text without a character is no token, and is none under
another name. A header has only characters, so a text of characters stays one. -/
structure Renaming where
  newName : { t : Datum // t.isFilledText = true } → { t : Datum // t.isFilledText = true }
  injective : Function.Injective newName
  keeps_str : ∀ text h, ∃ s, (newName ⟨.str text, h⟩).val = .str s

namespace Renaming

variable (ρ : Renaming)

/-- A value under its new name, if it is a token at all. -/
def token (t : Datum) : Datum :=
  if h : t.isFilledText = true then (ρ.newName ⟨t, h⟩).val else t

theorem isFilledText_token (t : Datum) : (ρ.token t).isFilledText = t.isFilledText := by
  rw [token]
  split
  · next h => rw [h, (ρ.newName ⟨t, h⟩).property]
  · rfl

theorem token_injective : Function.Injective ρ.token := by
  intro s t hst
  have hfilled : s.isFilledText = t.isFilledText := by
    rw [← ρ.isFilledText_token s, hst, ρ.isFilledText_token]
  by_cases hs : s.isFilledText = true
  · rw [token, token, dif_pos hs, dif_pos (hfilled ▸ hs)] at hst
    exact congrArg Subtype.val (ρ.injective (Subtype.ext hst))
  · rwa [token, token, dif_neg hs, dif_neg (hfilled ▸ hs)] at hst

/-- Different names are different keys, and what is no token keeps its own. -/
theorem same_token (s t : Datum) : (ρ.token s).same (ρ.token t) = s.same t := by
  by_cases h : s.isFilledText = true ∨ t.isFilledText = true
  · have h' : (ρ.token s).isFilledText = true ∨ (ρ.token t).isFilledText = true := by
      rwa [ρ.isFilledText_token, ρ.isFilledText_token]
    rw [Bool.eq_iff_iff, Value.same_iff_of_isFilledText h, Value.same_iff_of_isFilledText h',
      ρ.token_injective.eq_iff]
  · obtain ⟨hs, ht⟩ := not_or.mp h
    rw [token, token, dif_neg hs, dif_neg ht]

/-- A text of characters under its new name. -/
def text (t : String) : String :=
  match ρ.token (.str t) with
  | .str s => s
  | _ => t

theorem token_str (t : String) : ρ.token (.str t) = .str (ρ.text t) := by
  obtain ⟨s, hs⟩ : ∃ s, ρ.token (.str t) = .str s := by
    rw [token]
    split
    · next h => exact ρ.keeps_str t h
    · exact ⟨t, rfl⟩
  rw [text, hs]

theorem text_ne_empty_iff {t : String} : ρ.text t ≠ "" ↔ t ≠ "" := by
  rw [← isFilledText_str_iff, ← isFilledText_str_iff, ← token_str, isFilledText_token]

/-! ## Where tokens stand -/

/-- An entry of a session: under the key of the token stands a token. -/
def entry (e : Datum × Datum) : Datum × Datum :=
  if e.1.same Session.tokenKey then (e.1, ρ.token e.2) else e

def session (s : Session) : Session := { s with entries := s.entries.map ρ.entry }

/-- The value of a header: what stands behind the mark is a token. -/
def headerValue (value : String) : String :=
  if bearerMark.isPrefixOf value.toList then
    "Bearer " ++ ρ.text (String.ofList (value.toList.drop bearerMark.length))
  else value

def header (h : String × String) : String × String :=
  if h.1 = "authorization" then (h.1, ρ.headerValue h.2) else h

def request (r : Http.Request) : Http.Request := { r with headers := r.headers.map ρ.header }

/-- A decision: the tokens shown to the verifier and the session have other names, what is
decided and what is said does not change. -/
def decision (d : Decision) : Decision :=
  { d with session := d.session.map ρ.session, verified := d.verified.map ρ.token }

/-! ## Where the gate looks -/

theorem entry_fst (e : Datum × Datum) : (ρ.entry e).1 = e.1 := by
  rw [entry]
  split <;> rfl

theorem get?_session (s : Session) :
    (ρ.session s).get? Session.tokenKey = (s.get? Session.tokenKey).map ρ.token := by
  rw [Session.get?, Session.get?, session]
  induction s.entries with
  | nil => rfl
  | cons e rest ih =>
      obtain ⟨key, v⟩ := e
      rw [List.map_cons, entry]
      split
      · next hkey => simp only [Value.entry?, if_pos hkey, Option.map_some]
      · next hkey => simp only [Value.entry?, if_neg hkey, ih]

theorem token?_session (s : Session) : (ρ.session s).token? = s.token?.map ρ.token := by
  have hfilled : Value.isFilledText ∘ ρ.token = Value.isFilledText :=
    funext ρ.isFilledText_token
  rw [Session.token?, Session.token?, get?_session, Option.filter_map, hfilled]

theorem session_pop (s : Session) :
    (ρ.session s).pop Session.tokenKey = ρ.session (s.pop Session.tokenKey) := by
  have herase : Value.eraseEntry Session.tokenKey (s.entries.map ρ.entry) =
      (Value.eraseEntry Session.tokenKey s.entries).map ρ.entry := by
    rw [Value.eraseEntry, Value.eraseEntry, List.filter_map]
    congr 2
    funext e
    rw [Function.comp_apply, entry_fst]
  rw [Session.pop, Session.pop, get?_session]
  cases s.get? Session.tokenKey with
  | none => rfl
  | some v => exact congrArg (Session.mk · true true) herase

theorem first?_headers (name : String) (hs : Http.Headers) :
    Http.Headers.first? name (hs.map ρ.header) =
      if name = "authorization" then (hs.first? name).map ρ.headerValue else hs.first? name := by
  rw [Http.Headers.first?, Http.Headers.first?]
  induction hs with
  | nil => simp
  | cons h rest ih =>
      obtain ⟨key, value⟩ := h
      rw [List.map_cons, header]
      by_cases hkey : name = key
      · subst hkey
        split <;> simp
      · have hbeq : (name == key) = false := beq_eq_false_iff_ne.mpr hkey
        split <;> simp only [List.lookup_cons, hbeq, ih]

theorem headerValue_of_mark (t : String) :
    ρ.headerValue ("Bearer " ++ t) = "Bearer " ++ ρ.text t := by
  have hlist : ("Bearer " ++ t).toList = bearerMark ++ t.toList := String.toList_append
  rw [headerValue, hlist, if_pos (List.isPrefixOf_iff_prefix.mpr (List.prefix_append _ _)),
    List.drop_left, String.ofList_toList]

theorem headerValue_eq_iff {value token : String} :
    ρ.headerValue value = "Bearer " ++ token ↔
      ∃ t, value = "Bearer " ++ t ∧ ρ.text t = token := by
  constructor
  · intro h
    rw [headerValue] at h
    split at h
    · next hmark =>
        obtain ⟨rest, hrest⟩ := List.isPrefixOf_iff_prefix.mp hmark
        rw [← hrest, List.drop_left] at h
        refine ⟨String.ofList rest, ?_, (String.append_right_inj "Bearer ").mp h⟩
        rw [← String.toList_inj, ← hrest, String.toList_append, String.toList_ofList (l := rest)]
        rfl
    · next hmark =>
        rw [h, String.toList_append] at hmark
        exact absurd (List.isPrefixOf_iff_prefix.mpr (List.prefix_append _ _)) hmark
  · rintro ⟨t, rfl, rfl⟩
    exact ρ.headerValue_of_mark t

theorem headerToken?_headers (hs : Http.Headers) :
    headerToken? (hs.map ρ.header) = (headerToken? hs).map ρ.text := by
  ext token
  simp only [headerToken?_eq_some_iff, Option.map_eq_some_iff, first?_headers, ↓reduceIte,
    headerValue_eq_iff]
  constructor
  · rintro ⟨hne, value, hvalue, t, rfl, rfl⟩
    exact ⟨t, ⟨ρ.text_ne_empty_iff.mp hne, hvalue⟩, rfl⟩
  · rintro ⟨t, ⟨hne, hvalue⟩, rfl⟩
    exact ⟨ρ.text_ne_empty_iff.mpr hne, _, hvalue, t, rfl, rfl⟩

/-- The gate looks in the same place, whatever the tokens are called. -/
theorem token?_rename (s : Option Session) (hs : Http.Headers) :
    token? (s.map ρ.session) (hs.map ρ.header) = (token? s hs).map ρ.token := by
  have hheader : (headerToken? (hs.map ρ.header)).map Value.str =
      ((headerToken? hs).map Value.str).map ρ.token := by
    rw [headerToken?_headers, Option.map_map, Option.map_map]
    congr 1
    funext t
    exact (ρ.token_str t).symm
  rw [token?, token?, hheader]
  cases s with
  | none => rfl
  | some s =>
      rw [Option.map_some, Option.bind_some, Option.bind_some, token?_session]
      cases s.token? <;> rfl

theorem shownPath_request (r : Http.Request) : (ρ.request r).shownPath = r.shownPath := by
  have hhost : (ρ.request r).host? = r.host? := by
    rw [Http.Request.host?, Http.Request.host?, request, first?_headers, if_neg (by decide)]
  rw [Http.Request.shownPath, Http.Request.shownPath, hhost]
  rfl

theorem place_request (r : Http.Request) : place (ρ.request r) = place r := by
  rw [place, place, shownPath_request]
  rfl

/-! ## What the gate decides -/

theorem grant_request (r : Http.Request) (roles : Option (List String)) (i : Identity) :
    grant (ρ.request r) roles i = grant r roles i := by
  rw [grant.eq_def, grant.eq_def, place_request]

theorem settle_rename (r : Http.Request) (roles : Option (List String)) (s : Option Session)
    (token : Datum) (verdict : Except Failure Verdict) :
    settle (ρ.request r) roles (s.map ρ.session) (ρ.token token) verdict =
      ρ.decision (settle r roles s token verdict) := by
  cases verdict with
  | error f => rfl
  | ok v =>
      cases v with
      | expired =>
          have hpop : (s.map ρ.session).map (·.pop Session.tokenKey) =
              (s.map (·.pop Session.tokenKey)).map ρ.session := by
            rw [Option.map_map, Option.map_map]
            congr 1
            funext s
            exact ρ.session_pop s
          rw [settle, settle, place_request, hpop]
          rfl
      | invalid =>
          rw [settle, settle, place_request]
          rfl
      | accepted i =>
          simp only [settle, grant_request]
          cases unfitRole? roles i.role <;> rfl

variable {verify verify' : Verifier}

/-- One call: under other names it goes the same way, if the verifier has learnt the names. -/
theorem check_rename (hverify : ∀ t, verify' (ρ.token t) = verify t) (policy : Policy)
    (r : Http.Request) (s : Option Session) :
    check policy verify' (ρ.request r) (s.map ρ.session) =
      ρ.decision (check policy verify r s) := by
  let c : Call := ⟨policy, r, verify⟩
  let c' : Call := ⟨policy, ρ.request r, verify'⟩
  change c'.decision (s.map ρ.session) = ρ.decision (c.decision s)
  have hlooked : (s.map ρ.session).map Session.touch = (s.map Session.touch).map ρ.session := by
    cases s <;> rfl
  have htoken' : token? (s.map ρ.session) c'.request.headers =
      (token? s c.request.headers).map ρ.token := ρ.token?_rename s r.headers
  cases hpublic : policy.isPublic with
  | true =>
      rw [Call.decision_of_isPublic (c := c') hpublic, Call.decision_of_isPublic (c := c) hpublic]
      rfl
  | false =>
      cases htoken : token? s c.request.headers with
      | none =>
          rw [htoken] at htoken'
          rw [Call.decision_of_token?_none (c := c') hpublic htoken',
            Call.decision_of_token?_none (c := c) hpublic htoken, hlooked, place_request]
          rfl
      | some token =>
          rw [htoken] at htoken'
          rw [Call.decision_of_token?_some (c := c') hpublic htoken',
            Call.decision_of_token?_some (c := c) hpublic htoken, hlooked]
          change settle (ρ.request r) policy.roles _ _ (verify' (ρ.token token)) = _
          rw [hverify]
          exact ρ.settle_rename r policy.roles _ token _

end Renaming

/-! ## One call after the other -/

/-- A verifier that knows some tokens; any other one is worth nothing. -/
def Verifier.listing (answers : List (Datum × Except Failure Verdict)) : Verifier := fun token =>
  ((answers.find? (·.1.same token)).map (·.2)).getD (.ok .invalid)

/-- A request and the place of the session that it comes with, if it comes with one. -/
structure Caller where
  request : Http.Request
  place : Option Nat

/-- The session that a caller finds. -/
def Caller.session? (c : Caller) (sessions : List Session) : Option Session :=
  c.place.bind (sessions[·]?)

def Caller.decision (c : Caller) (policy : Policy) (verify : Verifier)
    (sessions : List Session) : Decision :=
  check policy verify c.request (c.session? sessions)

/-- The sessions once a caller has left one behind. -/
def Caller.leave (c : Caller) (sessions : List Session) (s : Option Session) : List Session :=
  match c.place, s with
  | some place, some s => sessions.set place s
  | _, _ => sessions

/-- What a guard decides on one caller after the other, and the sessions that are left. Callers
who name the same place share a session. -/
def attend (policy : Policy) (verify : Verifier) :
    List Session → List Caller → List Decision × List Session
  | sessions, [] => ([], sessions)
  | sessions, c :: rest =>
    let d := c.decision policy verify sessions
    let run := attend policy verify (c.leave sessions d.session) rest
    (d :: run.1, run.2)

namespace Renaming

variable (ρ : Renaming)

/-- The answers of a verifier that has learnt the new names. -/
def answers (answers : List (Datum × Except Failure Verdict)) :
    List (Datum × Except Failure Verdict) :=
  answers.map fun a => (ρ.token a.1, a.2)

def caller (c : Caller) : Caller := { c with request := ρ.request c.request }

/-- Different tokens have different names, so the verifier mixes nothing up. -/
theorem listing_answers (answers : List (Datum × Except Failure Verdict)) (t : Datum) :
    Verifier.listing (ρ.answers answers) (ρ.token t) = Verifier.listing answers t := by
  have hsame : (fun a : Datum × Except Failure Verdict => a.1.same (ρ.token t)) ∘
      (fun a : Datum × Except Failure Verdict => (ρ.token a.1, a.2)) = fun a => a.1.same t :=
    funext fun a => ρ.same_token a.1 t
  rw [Verifier.listing, Verifier.listing, Renaming.answers, List.find?_map, hsame, Option.map_map]
  rfl

theorem session?_caller (c : Caller) (sessions : List Session) :
    (ρ.caller c).session? (sessions.map ρ.session) = (c.session? sessions).map ρ.session := by
  rw [Caller.session?, Caller.session?, caller]
  cases c.place with
  | none => rfl
  | some place => exact List.getElem?_map

theorem leave_caller (c : Caller) (sessions : List Session) (s : Option Session) :
    (ρ.caller c).leave (sessions.map ρ.session) (s.map ρ.session) =
      (c.leave sessions s).map ρ.session := by
  rw [Caller.leave.eq_def, Caller.leave.eq_def, caller]
  cases c.place with
  | none => rfl
  | some place =>
      cases s with
      | none => rfl
      | some s => exact List.map_set.symm

section

variable {verify verify' : Verifier} (hverify : ∀ t, verify' (ρ.token t) = verify t)

include hverify

theorem decision_caller (policy : Policy) (c : Caller) (sessions : List Session) :
    (ρ.caller c).decision policy verify' (sessions.map ρ.session) =
      ρ.decision (c.decision policy verify sessions) := by
  rw [Caller.decision, Caller.decision, session?_caller]
  exact ρ.check_rename hverify policy c.request (c.session? sessions)

theorem attend_rename (policy : Policy) (sessions : List Session) (callers : List Caller) :
    attend policy verify' (sessions.map ρ.session) (callers.map ρ.caller) =
      ((attend policy verify sessions callers).1.map ρ.decision,
        (attend policy verify sessions callers).2.map ρ.session) := by
  induction callers generalizing sessions with
  | nil => rfl
  | cons c rest ih =>
      -- the next caller finds what this one has left, under its other names
      have hleave := ρ.leave_caller c sessions (c.decision policy verify sessions).session
      have hsession : (ρ.decision (c.decision policy verify sessions)).session =
          (c.decision policy verify sessions).session.map ρ.session := rfl
      simp only [List.map_cons, attend, ρ.decision_caller hverify, hsession, hleave, ih]

end

/-- What tokens are made of shows in nothing that a guard decides or says. Under other names all
outcomes and all logs of a run are the same; the verifier is shown the same tokens under their
other names, and the sessions hold them under those after each call and in the end. -/
theorem attend_alike (policy : Policy) (answers : List (Datum × Except Failure Verdict))
    (sessions : List Session) (callers : List Caller) :
    let run := attend policy (.listing answers) sessions callers
    let run' := attend policy (.listing (ρ.answers answers)) (sessions.map ρ.session)
      (callers.map ρ.caller)
    run'.1.map (·.outcome) = run.1.map (·.outcome) ∧
      run'.1.map (·.logs) = run.1.map (·.logs) ∧
      run'.1.map (·.verified) = run.1.map (·.verified.map ρ.token) ∧
      run'.1.map (·.session) = run.1.map (·.session.map ρ.session) ∧
      run'.2 = run.2.map ρ.session := by
  intro run run'
  have hrun : run' = (run.1.map ρ.decision, run.2.map ρ.session) :=
    ρ.attend_rename (ρ.listing_answers answers) policy sessions callers
  simp only [hrun, List.map_map]
  exact ⟨rfl, rfl, rfl, rfl, trivial⟩

/-! The shortest way to give all tokens other names is to put a letter in front of them. Two
callers with one session: the token that the first one finds there has expired, so the second one
is known by the token of a header, under the old names and under the new ones. -/

/-- A value with a letter in front, if it is a text. -/
def withLetter : Datum → Datum
  | .str s => .str ("t" ++ s)
  | .unpaired points => .unpaired ('t'.toNat :: points)
  | v => v

theorem withLetter_injective : Function.Injective withLetter := by
  intro v w h
  cases v <;> cases w <;> simp_all [withLetter]

theorem isFilledText_withLetter {t : Datum} (h : t.isFilledText = true) :
    (withLetter t).isFilledText = true := by
  cases t with
  | str s => exact isFilledText_str_iff.mpr (by simp)
  | unpaired points => rfl
  | _ => cases h

/-- All tokens with a letter in front. -/
def lettered : Renaming where
  newName t := ⟨withLetter t.val, isFilledText_withLetter t.property⟩
  injective := fun _ _ h => Subtype.ext (withLetter_injective (congrArg Subtype.val h))
  keeps_str := fun text _ => ⟨"t" ++ text, rfl⟩

def knownTokens (old new : String) : List (Datum × Except Failure Verdict) :=
  [(.str old, .ok .expired), (.str new, .ok (.accepted ⟨.str "ann", .str "user"⟩))]

def oneSession (old : String) : List Session := [.ofEntries [(.str "token", .str old)]]

def twoCallers (new : String) : List Caller :=
  [⟨⟨"GET", "/api/v1/me", "", [], "", none, none⟩, some 0⟩,
    ⟨⟨"GET", "/api/v1/me", "", [("authorization", "Bearer " ++ new)], "", none, none⟩, some 0⟩]

theorem callers_lettered :
    let run := attend ⟨false, none⟩ (.listing (knownTokens "a" "b")) (oneSession "a")
      (twoCallers "b")
    let run' := attend ⟨false, none⟩ (.listing (knownTokens "ta" "tb")) (oneSession "ta")
      (twoCallers "tb")
    run'.1.map (·.outcome) = run.1.map (·.outcome) ∧ run'.1.map (·.logs) = run.1.map (·.logs) ∧
      run'.1.map (·.verified) = run.1.map (·.verified.map lettered.token) ∧
      run.1.map (·.verified.map Value.text) = [["a"], ["b"]] := by
  have hanswers : lettered.answers (knownTokens "a" "b") = knownTokens "ta" "tb" := rfl
  have hsession : (oneSession "a").map lettered.session = oneSession "ta" := by
    simp [oneSession, session, entry, Session.ofEntries, Session.tokenKey, Value.same_str_str]
    rfl
  have hcallers : (twoCallers "b").map lettered.caller = twoCallers "tb" := rfl
  have halike := lettered.attend_alike ⟨false, none⟩ (knownTokens "a" "b") (oneSession "a")
    (twoCallers "b")
  rw [hanswers, hsession, hcallers] at halike
  exact ⟨halike.1, halike.2.1, halike.2.2.1, by decide +kernel⟩

end Renaming

end Gate

end Gatehouse
