import Gatehouse.Proofs.StaleToken

/-!
# Guards that share a session

A guard may be called any number of times with one session, and several guards may share it.
What a call can do to the session is little: it leaves the entries as they are, or, if the
verifier said that the token it was shown has expired, takes the token out. The token that has
expired need not be the one that goes: the first may have come in a header.

`Call.abides` says what one call does, `Call.Expires` being the case that matters. What a run
of calls does follows from two facts about a call that survive any number of them: the
entries other than the token stay (`others_sessionAfter`), and a token that is gone does not
come back, so that the calls which took one out can be counted against the token that was
there (`removals_add`).
-/

namespace Gatehouse

theorem Session.entries_pop (s : Session) (key : Datum) :
    (s.pop key).entries = Value.eraseEntry key s.entries := by
  rw [pop]
  cases hget : s.get? key with
  | some v => rfl
  | none => exact (Http.Jar.eraseEntry_eq_self hget).symm

namespace Gate

/-- A call of a guard: its policy, the request, and what the verifier says of any token at
that moment. -/
structure Call where
  policy : Policy
  request : Http.Request
  verify : Verifier

/-- The entries of a session, if there is one. -/
def entries (s : Option Session) : Option (List (Datum × Datum)) := s.map Session.entries

/-- All entries but the token, in their order. -/
def others (s : Option Session) : Option (List (Datum × Datum)) :=
  (entries s).map (Value.eraseEntry Session.tokenKey)

/-- Whether a session has an entry for the token, whatever it holds. -/
def keepsToken (s : Option Session) : Bool :=
  ((entries s).bind (Value.entry? Session.tokenKey)).isSome

variable {s t : Option Session}

theorem entries_touch (s : Option Session) : entries (s.map Session.touch) = entries s := by
  cases s <;> rfl

theorem entries_pop (s : Option Session) :
    entries (s.map (·.pop Session.tokenKey)) = others s := by
  cases s with
  | none => rfl
  | some s => exact congrArg some (s.entries_pop Session.tokenKey)

theorem others_touch (s : Option Session) : others (s.map Session.touch) = others s := by
  rw [others, others, entries_touch]

theorem others_of_taken (h : entries t = others s) : others t = others s := by
  rw [others, h, others, Option.map_map]
  congr 1
  funext entries
  simp only [Function.comp_apply, Value.eraseEntry, List.filter_filter, Bool.and_self]

theorem keepsToken_of_taken (h : entries t = others s) : keepsToken t = false := by
  rw [keepsToken, h, others]
  cases entries s with
  | none => rfl
  | some entries => simp [Session.entry?_eraseEntry]

theorem token?_of_not_keepsToken (h : keepsToken s = false) (headers : Http.Headers) :
    token? s headers = (headerToken? headers).map .str := by
  cases s with
  | none => rfl
  | some s =>
      rw [keepsToken, Option.isSome_eq_false_iff, Option.isNone_iff_eq_none] at h
      have hget : s.get? Session.tokenKey = none := h
      rw [token?, Option.bind_some, Session.token?, hget, Option.filter_none, Option.none_or]

namespace Call

variable {c : Call}

/-- The decision on a call that finds a session. -/
def decision (c : Call) (s : Option Session) : Decision := check c.policy c.verify c.request s

/-- Whether a call shows a token of which the verifier says that it has expired. -/
def Expires (c : Call) (s : Option Session) : Prop :=
  c.policy.isPublic = false ∧
    ∃ token, token? s c.request.headers = some token ∧ c.verify token = .ok .expired

/-- What a call does. -/
structure Abides (c : Call) (s : Option Session) : Prop where
  /-- A public route lets pass without a look at anything. -/
  opened : c.policy.isPublic = true → c.decision s = ⟨.ok (.proceed none), s, [], []⟩
  /-- Otherwise the token, if there is one, is shown to the verifier once. -/
  shown : c.policy.isPublic = false →
    (c.decision s).verified = (token? s c.request.headers).toList
  /-- Nothing else that the verifier might say matters. -/
  heeded : ∀ verify, (∀ token ∈ (c.decision s).verified, verify token = c.verify token) →
    decision { c with verify } s = c.decision s
  kept : ¬ c.Expires s → entries (c.decision s).session = entries s
  taken : c.Expires s → entries (c.decision s).session = others s
  told : (∃ e, (c.decision s).outcome = .ok (.reject e) ∧ e.kind = .expiredToken) ↔ c.Expires s
  broken : ∀ token f, c.policy.isPublic = false → token? s c.request.headers = some token →
    c.verify token = .error f →
      (c.decision s).outcome = .error f ∧ entries (c.decision s).session = entries s

/-! ## One call -/

theorem decision_of_isPublic (h : c.policy.isPublic = true) :
    c.decision s = ⟨.ok (.proceed none), s, [], []⟩ := by
  rw [decision, check, approach, if_pos h]

theorem decision_of_token?_none (h : c.policy.isPublic = false)
    (htoken : token? s c.request.headers = none) :
    c.decision s = ⟨.ok (.reject ⟨.invalidToken, "missing token"⟩), s.map Session.touch, [],
      [log .info ("No token on " ++ place c.request)]⟩ := by
  rw [decision, check, approach, h, htoken]
  rfl

theorem decision_of_token?_some {token : Datum} (h : c.policy.isPublic = false)
    (htoken : token? s c.request.headers = some token) :
    c.decision s = settle c.request c.policy.roles (s.map Session.touch) token
      (c.verify token) := by
  rw [decision, check, approach, h, htoken]
  rfl

end Call

variable {r : Http.Request} {roles : Option (List String)} {token : Datum}
  {verdict : Except Failure Verdict}

theorem settle_verified : (settle r roles s token verdict).verified = [token] := by
  rw [settle.eq_def]
  split
  · rfl
  · rfl
  · rfl
  · split <;> rfl

/-- A session is changed for a token that has expired, and for nothing else. -/
theorem settle_session_of_ne (h : verdict ≠ .ok .expired) :
    (settle r roles s token verdict).session = s := by
  rw [settle.eq_def]
  split
  · rfl
  · exact absurd rfl h
  · rfl
  · split <;> rfl

theorem grant_rejects {i : Identity} {e : ApiError} (h : (grant r roles i).1 = .reject e) :
    e.kind = .forbidden := by
  rw [grant.eq_def] at h
  split at h
  · cases h
  · split at h
    · cases h
    · injection h with h
      rw [← h]

/-- Only a token that has expired is said to have expired. -/
theorem settle_tells_expired_iff :
    (∃ e, (settle r roles s token verdict).outcome = .ok (.reject e) ∧
      e.kind = .expiredToken) ↔ verdict = .ok .expired := by
  constructor
  · rintro ⟨e, houtcome, hkind⟩
    cases verdict with
    | error f => cases houtcome
    | ok v =>
        cases v with
        | expired => rfl
        | invalid =>
            injection houtcome with houtcome
            injection houtcome with houtcome
            subst houtcome
            cases hkind
        | accepted i =>
            rw [settle.eq_def] at houtcome
            simp only at houtcome
            split at houtcome
            · cases houtcome
            · injection houtcome with hgrant
              rw [grant_rejects hgrant] at hkind
              cases hkind
  · rintro rfl
    exact ⟨_, rfl, rfl⟩

namespace Call

variable {c : Call}

theorem not_expires_of_isPublic (h : c.policy.isPublic = true) : ¬ c.Expires s := by
  rintro ⟨hguarded, -⟩
  rw [h] at hguarded
  cases hguarded

theorem expires_iff_of_token? (h : c.policy.isPublic = false)
    (htoken : token? s c.request.headers = some token) :
    c.Expires s ↔ c.verify token = .ok .expired := by
  rw [Expires, htoken]
  simp [h]

theorem abides_of_isPublic (h : c.policy.isPublic = true) : c.Abides s where
  opened _ := decision_of_isPublic h
  shown hguarded := by rw [h] at hguarded; cases hguarded
  heeded verify _ := by rw [decision_of_isPublic h, decision_of_isPublic (c := { c with verify }) h]
  kept _ := by rw [decision_of_isPublic h]
  taken hexpires := absurd hexpires (not_expires_of_isPublic h)
  told := by
    rw [decision_of_isPublic h]
    refine ⟨?_, fun hexpires => absurd hexpires (not_expires_of_isPublic h)⟩
    rintro ⟨e, houtcome, -⟩
    cases houtcome
  broken _ _ hguarded := by rw [h] at hguarded; cases hguarded

theorem abides_of_token?_none (h : c.policy.isPublic = false)
    (htoken : token? s c.request.headers = none) : c.Abides s where
  opened hpublic := by rw [h] at hpublic; cases hpublic
  shown _ := by rw [decision_of_token?_none h htoken, htoken]; rfl
  heeded verify _ := by
    rw [decision_of_token?_none h htoken,
      decision_of_token?_none (c := { c with verify }) h htoken]
  kept _ := by rw [decision_of_token?_none h htoken]; exact entries_touch s
  taken := by
    rintro ⟨-, token, hshown, -⟩
    rw [htoken] at hshown
    cases hshown
  told := by
    rw [decision_of_token?_none h htoken]
    constructor
    · rintro ⟨e, houtcome, hkind⟩
      injection houtcome with houtcome
      injection houtcome with houtcome
      subst houtcome
      cases hkind
    · rintro ⟨-, token, hshown, -⟩
      rw [htoken] at hshown
      cases hshown
  broken token f _ hshown := by rw [htoken] at hshown; cases hshown

theorem abides_of_token?_some (h : c.policy.isPublic = false)
    (htoken : token? s c.request.headers = some token) : c.Abides s where
  opened hpublic := by rw [h] at hpublic; cases hpublic
  shown _ := by rw [decision_of_token?_some h htoken, htoken]; exact settle_verified
  heeded verify hsame := by
    rw [decision_of_token?_some h htoken, settle_verified] at hsame
    rw [decision_of_token?_some h htoken,
      decision_of_token?_some (c := { c with verify }) h htoken]
    exact congrArg (settle _ _ _ _) (hsame token List.mem_cons_self)
  kept hexpires := by
    rw [decision_of_token?_some h htoken,
      settle_session_of_ne (mt (expires_iff_of_token? h htoken).mpr hexpires)]
    exact entries_touch s
  taken hexpires := by
    rw [decision_of_token?_some h htoken, (expires_iff_of_token? h htoken).mp hexpires]
    exact (entries_pop _).trans (others_touch s)
  told := by
    rw [decision_of_token?_some h htoken, settle_tells_expired_iff,
      expires_iff_of_token? h htoken]
  broken shown f _ hshown hfails := by
    obtain rfl := Option.some.inj (htoken.symm.trans hshown)
    rw [decision_of_token?_some h htoken, hfails]
    exact ⟨rfl, entries_touch s⟩

/-- What one call does, whatever its policy and whatever it shows. -/
theorem abides (c : Call) (s : Option Session) : c.Abides s := by
  cases hpublic : c.policy.isPublic with
  | true => exact abides_of_isPublic hpublic
  | false =>
      cases htoken : token? s c.request.headers with
      | none => exact abides_of_token?_none hpublic htoken
      | some token => exact abides_of_token?_some hpublic htoken

end Call

/-! ## A run of calls -/

/-- The session that calls leave behind, one after the other. -/
def sessionAfter : Option Session → List Call → Option Session
  | s, [] => s
  | s, c :: rest => sessionAfter (c.decision s).session rest

/-- How many calls took the token out of the session. -/
def removals : Option Session → List Call → Nat
  | _, [] => 0
  | s, c :: rest =>
    (if keepsToken s && !keepsToken (c.decision s).session then 1 else 0) +
      removals (c.decision s).session rest

variable {c : Call} {calls more : List Call}

theorem sessionAfter_append (s : Option Session) (calls more : List Call) :
    sessionAfter s (calls ++ more) = sessionAfter (sessionAfter s calls) more := by
  induction calls generalizing s with
  | nil => rfl
  | cons c calls ih => exact ih _

/-- A call leaves the entries alone or takes the token out. -/
theorem entries_decision (c : Call) (s : Option Session) :
    entries (c.decision s).session = entries s ∨ entries (c.decision s).session = others s := by
  by_cases hexpires : c.Expires s
  · exact Or.inr ((c.abides s).taken hexpires)
  · exact Or.inl ((c.abides s).kept hexpires)

theorem others_decision (c : Call) (s : Option Session) :
    others (c.decision s).session = others s := by
  rcases entries_decision c s with hkept | htaken
  · rw [others, hkept, others]
  · exact others_of_taken htaken

/-- What is not the token stays. -/
theorem others_sessionAfter (s : Option Session) (calls : List Call) :
    others (sessionAfter s calls) = others s := by
  induction calls generalizing s with
  | nil => rfl
  | cons c calls ih => rw [sessionAfter, ih, others_decision]

theorem keepsToken_decision (h : keepsToken s = false) :
    keepsToken (c.decision s).session = false := by
  rcases entries_decision c s with hkept | htaken
  · rw [keepsToken, hkept]
    exact h
  · exact keepsToken_of_taken htaken

/-- A token that is gone does not come back. -/
theorem keepsToken_sessionAfter (h : keepsToken s = false) (calls : List Call) :
    keepsToken (sessionAfter s calls) = false := by
  induction calls generalizing s with
  | nil => exact h
  | cons c calls ih => exact ih (keepsToken_decision h)

/-- The token that was there is there still or was taken out, by one call. -/
theorem removals_add (s : Option Session) (calls : List Call) :
    removals s calls + (keepsToken (sessionAfter s calls)).toNat = (keepsToken s).toNat := by
  induction calls generalizing s with
  | nil => exact Nat.zero_add _
  | cons c calls ih =>
      have hrest := ih (c.decision s).session
      rw [removals, sessionAfter, Nat.add_assoc, hrest]
      cases hbefore : keepsToken s with
      | false => rw [keepsToken_decision hbefore]; rfl
      | true => cases keepsToken (c.decision s).session <;> rfl

/-- Each call of a run does what it must, with the session that the calls before it have left
behind. In the whole run the token is taken out of the session once at most, and nothing else
is ever touched. After a call that was told that its token has expired, tokens come from
headers only. -/
theorem calls_share_session (s : Option Session) (calls : List Call) :
    (∀ c : Call, c.Abides (sessionAfter s calls)) ∧
      removals s calls ≤ 1 ∧
      others (sessionAfter s calls) = others s ∧
      ∀ (c : Call) (between : List Call) (later : Call), c.Expires (sessionAfter s calls) →
        later.policy.isPublic = false →
        (later.decision (sessionAfter s (calls ++ c :: between))).verified =
          ((headerToken? later.request.headers).map .str).toList := by
  refine ⟨fun c => c.abides _, ?_, others_sessionAfter s calls, ?_⟩
  · have hbalance := removals_add s calls
    have hone := Bool.toNat_le (keepsToken s)
    omega
  · intro c between later hexpires hguarded
    have hgone : keepsToken (c.decision (sessionAfter s calls)).session = false :=
      keepsToken_of_taken ((c.abides _).taken hexpires)
    rw [sessionAfter_append, sessionAfter, (later.abides _).shown hguarded,
      token?_of_not_keepsToken (keepsToken_sessionAfter hgone between)]

/-! Somebody comes back with a token in the session that is too old, and with another one in
a header. -/

def staying : Option Session :=
  some (.ofEntries [(.str "token", .str "old"), (.str "user", .str "ann")])

def returning : Call where
  policy := ⟨false, none⟩
  request := ⟨"GET", "/api/v1/me", "", [("authorization", "Bearer new")], "", none, none⟩
  verify
    | .str "old" => .ok .expired
    | _ => .ok (.accepted ⟨.str "ann", .str "user"⟩)

theorem token?_staying : token? staying returning.request.headers = some (.str "old") := by
  have hget : Value.entry? Session.tokenKey
      [(.str "token", .str "old"), (.str "user", .str "ann")] = some (.str "old" : Datum) := by
    simp [Value.entry?, Session.tokenKey, Value.same_str_str]
  simp [token?, staying, Session.token?, Session.get?, Session.ofEntries, hget,
    Value.isFilledText]

theorem others_staying : others staying = some [(.str "user", .str "ann")] := by
  simp [others, entries, staying, Session.ofEntries, Value.eraseEntry, Session.tokenKey,
    Value.same_str_str]

theorem returning_expires : returning.Expires staying := ⟨rfl, .str "old", token?_staying, rfl⟩

theorem old_token_leaves_once :
    returning.Expires staying ∧
      entries (returning.decision staying).session = some [(.str "user", .str "ann")] ∧
      removals staying [returning, returning] ≤ 1 ∧
      others (sessionAfter staying [returning, returning]) = some [(.str "user", .str "ann")] ∧
      (returning.decision (sessionAfter staying [returning])).verified = [.str "new"] := by
  obtain ⟨habides, -, -, hheader⟩ := calls_share_session staying []
  obtain ⟨-, honce, hothers, -⟩ := calls_share_session staying [returning, returning]
  have hnew : headerToken? returning.request.headers = some "new" := by rfl
  refine ⟨returning_expires, ?_, honce, hothers.trans others_staying, ?_⟩
  · exact ((habides returning).taken returning_expires).trans others_staying
  · have hverified := hheader returning [] returning returning_expires rfl
    rwa [hnew] at hverified

end Gate

end Gatehouse
