import Gatehouse.Proofs.JsonExtent
import Gatehouse.Proofs.Rounds

/-!
# A token that has expired does not come back

Once a session has no token, it gets one only from a handler. Everything else that happens
to a session leaves it as it is or takes something out of it, and on its way through the jar
nothing becomes a token that was none: keys become texts and values are read as what was
written, so a text that is not empty under the name of the token was one before.

A gate says that a token has expired only if it was shown one. So a client whose expired
token was taken out of its session is not told so again, until a handler stores another
token or the client shows one in a header.
-/

namespace Gatehouse

/-! ## Sessions without a token -/

/-- A text that is not empty is the same key as no other value. -/
theorem Value.same_iff_of_isFilledText {v w : Datum}
    (h : v.isFilledText = true ∨ w.isFilledText = true) : v.same w = true ↔ v = w := by
  rcases h with h | h
  · cases v with
    | str s => cases w <;> simp [same, sameAtom, whole?, rank?, extent?]
    | unpaired points => cases w <;> simp [same, sameAtom, whole?, rank?, extent?]
    | _ => cases h
  · cases w with
    | str s => exact same_str v s
    | unpaired points => cases v <;> simp [same, sameAtom, whole?, rank?, extent?]
    | _ => cases h

namespace Session

variable {s : Session} {entries : List (Datum × Datum)} {key value : Datum}

/-- Whether an entry is a token once it has been written. -/
def IsToken (e : Datum × Datum) : Prop := e.1.keyText = .ok "token" ∧ e.2.isFilledText = true

def Tokenless (entries : List (Datum × Datum)) : Prop := ∀ e ∈ entries, ¬ IsToken e

theorem entry?_eraseEntry (key : Datum) (entries : List (Datum × Datum)) :
    Value.entry? key (Value.eraseEntry key entries) = none := by
  cases h : Value.entry? key (Value.eraseEntry key entries) with
  | none => rfl
  | some value =>
      obtain ⟨k, hk, hsame⟩ := Value.exists_of_entry? h
      have hleft := (List.mem_filter.mp hk).2
      simp [hsame] at hleft

theorem Tokenless.token?_eq_none (h : Tokenless s.entries) : s.token? = none := by
  cases htoken : s.token? with
  | none => rfl
  | some token =>
      obtain ⟨hfilled, hget⟩ := Gate.sessionToken?_eq_some_iff.mp htoken
      obtain ⟨k, hk, hsame⟩ := Value.exists_of_entry? hget
      obtain rfl := (Value.same_str k "token").mp hsame
      exact absurd ⟨rfl, hfilled⟩ (h _ hk)

theorem Tokenless.pop (h : Tokenless s.entries) (key : Datum) : Tokenless (s.pop key).entries := by
  rw [Session.pop]
  split
  · exact fun e he => h e (List.mem_of_mem_filter he)
  · exact h

/-! ### Through the jar -/

theorem exists_of_toJsonMembers {members : List (String × Json)}
    (h : Value.toJsonMembers entries = .ok members) :
    ∀ m ∈ members, ∃ e ∈ entries, e.1.keyText = .ok m.1 ∧ e.2.toJson = .ok m.2 := by
  induction entries generalizing members with
  | nil =>
      injection h with h
      subst h
      exact fun m hm => absurd hm List.not_mem_nil
  | cons e entries ih =>
      obtain ⟨k, v⟩ := e
      rw [Value.toJsonMembers] at h
      obtain ⟨name, hname, h⟩ := exists_of_bind_eq_ok h
      obtain ⟨j, hj, h⟩ := exists_of_bind_eq_ok h
      obtain ⟨others, hothers, h⟩ := exists_of_bind_eq_ok h
      injection h with h
      subst h
      intro m hm
      rcases List.mem_cons.mp hm with rfl | hm
      · exact ⟨(k, v), List.mem_cons_self, hname, hj⟩
      · obtain ⟨e, he, hwritten⟩ := ih hothers m hm
        exact ⟨e, List.mem_cons_of_mem _ he, hwritten⟩

theorem exists_of_ofJsonMembers {members : List (String × Json)} {e : Datum × Datum}
    (h : e ∈ (Value.ofJsonMembers members : List (Datum × Datum))) :
    ∃ m ∈ members, e = (.str m.1, Value.ofJson m.2) := by
  induction members with
  | nil => cases h
  | cons m members ih =>
      obtain ⟨k, v⟩ := m
      rw [Value.ofJsonMembers] at h
      rcases List.mem_cons.mp h with rfl | h
      · exact ⟨(k, v), List.mem_cons_self, rfl⟩
      · obtain ⟨m, hm, he⟩ := ih h
        exact ⟨m, List.mem_cons_of_mem _ hm, he⟩

theorem isFilledText_of_toJson {v : Datum} {j : Json} (h : v.toJson = .ok j)
    (hj : j.isFilledText = true) : v.isFilledText = true := by
  have hmap : ∀ {α : Type} {x : Except Value.NotJson α} {f : α → Json},
      (∀ a, (f a).isFilledText = false) → x.map f ≠ .ok j := by
    intro α x f hf hx
    obtain ⟨a, -, rfl⟩ := exists_of_map_eq_ok hx
    rw [hf a] at hj
    cases hj
  rw [Value.toJson.eq_def] at h
  split at h
  case h_5 | h_6 =>
    injection h with h
    subst h
    exact hj
  case h_3 =>
    split at h
    · injection h with h
      subst h
      cases hj
    · cases h
  case h_7 | h_8 | h_9 => exact absurd h (hmap fun _ => rfl)
  case h_10 => cases h
  all_goals
    injection h with h
    subst h
    cases hj

theorem isFilledText_ofJson (j : Json) :
    Value.isFilledText (Value.ofJson j) = j.isFilledText := by
  cases j <;> simp [Value.ofJson, Value.isFilledText, Json.isFilledText]

/-- What is written without a token is read without one. -/
theorem Tokenless.of_read (h : Tokenless entries) {members : List (String × Json)} {w : Json}
    {found : List (Datum × Datum)} (hwritten : Value.toJsonMembers entries = .ok members)
    {nesting : Nat}
    (hread : Json.read .asNumber nesting ((Json.obj members).print .spacedAscii) = .ok w)
    (hfound : Http.SessionCookie.entries? w = some found) : Tokenless found := by
  obtain ⟨ms, rfl, hms⟩ := Json.read_print_obj Json.Style.isPlain_spacedAscii hread
  injection hfound with hfound
  subst hfound
  rintro e he ⟨hname, hfilled⟩
  obtain ⟨p, hp, rfl⟩ := exists_of_ofJsonMembers he
  obtain ⟨q, hq, hsame, hreads⟩ := hms p hp
  obtain ⟨e, he, hkey, hvalue⟩ := exists_of_toJsonMembers hwritten q hq
  rw [isFilledText_ofJson] at hfilled
  refine h e he ⟨?_, isFilledText_of_toJson hvalue (hreads.isFilledText hfilled)⟩
  rw [hkey, hsame]
  exact hname

end Session

namespace Http.Jar

open Session (Tokenless)

variable {depth : Nat} {secret : String} {second : Nat} {j kept : Jar} {s : Session}
  {carried : Bool}

/-- Whether the session in a jar, if it can be read, has no token. -/
def Tokenless (depth : Nat) (secret : String) (j : Jar) : Prop :=
  ∀ entries, j.held? depth secret = some entries → Session.Tokenless entries

theorem tokenless_empty : empty.Tokenless depth secret := by
  intro entries h
  injection h with h
  subst h
  exact fun e he => absurd he List.not_mem_nil

theorem Tokenless.store (hj : j.Tokenless depth secret) (hs : Session.Tokenless s.entries)
    (h : j.store secret second carried s = .ok kept) : kept.Tokenless depth secret := by
  rcases store_cases h with rfl | rfl | ⟨members, hmembers, rfl⟩
  · exact hj
  · exact tokenless_empty
  · intro entries hheld
    rcases held?_ofJson hheld with rfl | ⟨w, hread, hentries⟩
    · exact fun e he => absurd he List.not_mem_nil
    · exact hs.of_read hmembers hread hentries

theorem Tokenless.load {a : SessionCookie.Arrival} {now : Int} {r : Request}
    (hj : j.Tokenless depth secret) (hbare : r.headers.first? "cookie" = none)
    (h : SessionCookie.load depth secret now (j.attach r) = some a) :
    Session.Tokenless a.session.entries := by
  obtain ⟨entries, hsession, hentries⟩ := load_attach hbare h
  rw [hsession]
  rcases hentries with rfl | hheld
  · exact fun e he => absurd he List.not_mem_nil
  · exact hj entries hheld

end Http.Jar

namespace Exchange

variable {app : Application} {x y : Exchange} {t : Turn} {j : Http.Jar}

/-! ## Nothing brings a token but a handler -/

/-- Whether a turn stores a token: an act of the handler brings one into a session that had
none, or the response that the handler made sets a session cookie with one. -/
def StoresToken (app : Application) (t : Turn) (x : Exchange) : Prop :=
  match x.stage with
  | .handling visit (a :: _) last =>
    Session.Tokenless x.session.entries ∧ ¬ Session.Tokenless
      (a.run visit (x.around app t.moment t.standing) last x.session).session.entries
  | .answered response =>
    ¬ (Http.Jar.empty.keep response).Tokenless app.framework.depth app.settings.secretKey
  | _ => False

/-- Without a handler's doing no token comes in with a turn. -/
theorem step_tokenless {r : Http.Request}
    (hj : j.Tokenless app.framework.depth app.settings.secretKey)
    (hbare : r.headers.first? "cookie" = none) (hrequest : x.request = j.attach r)
    (hstores : ¬ x.StoresToken app t) (h : Session.Tokenless x.session.entries) :
    Session.Tokenless (x.step app t.moment t.standing).2.session.entries := by
  obtain ⟨s, htreats, hsession⟩ : ∃ s, Treats app t x s ∧
    (x.step app t.moment t.standing).2.session = s := step_treats
  rw [hsession]
  cases htreats with
  | leaves => exact h
  | finds hload =>
      rw [hrequest] at hload
      exact hj.load hbare hload
  | looks => exact h
  | pops => exact h.pop Session.tokenKey
  | acts hstage =>
      simp only [StoresToken, hstage] at hstores
      by_contra htoken
      exact hstores ⟨h, htoken⟩

end Exchange

namespace Round

variable {app : Application} {j j' : Http.Jar} {v w : Round} {e : ApiError}

/-- Whether a handler stores a token while the request is served. -/
def Stores (v : Round) (app : Application) (j : Http.Jar) : Prop :=
  ∃ before t after, v.turns = before ++ t :: after ∧ (v.along app j before).StoresToken app t

theorem tokenless_along (hj : j.Tokenless app.framework.depth app.settings.secretKey)
    (hbare : v.request.headers.first? "cookie" = none) (hstores : ¬ v.Stores app j)
    {before after : List Turn} (hturns : v.turns = before ++ after) :
    Session.Tokenless (v.along app j before).session.entries := by
  induction before using List.reverseRecOn generalizing after with
  | nil => exact fun e he => absurd he List.not_mem_nil
  | append_singleton before t ih =>
      rw [List.append_assoc, List.singleton_append] at hturns
      rw [along_concat]
      exact Exchange.step_tokenless hj hbare (Exchange.along_request before _)
        (fun h => hstores ⟨before, t, after, hturns, h⟩) (ih hturns)

/-- A jar without a token gets none in a round in which no handler stores one. -/
theorem tokenless_jarAfter (hj : j.Tokenless app.framework.depth app.settings.secretKey)
    (hbare : v.request.headers.first? "cookie" = none) (hstores : ¬ v.Stores app j) :
    (v.jarAfter app j).Tokenless app.framework.depth app.settings.secretKey := by
  rcases v.jarAfter_eq_or app j with h | ⟨hturns, hmade, hstore⟩
  · rwa [h]
  · refine (Http.Jar.keep_of hj ?_).store (tokenless_along hj hbare hstores hturns) hstore
    by_contra hown
    refine hstores ⟨_, _, _, hturns, ?_⟩
    simp only [Exchange.StoresToken, hmade]
    exact hown

/-- Rounds of a client, one after another, in which no handler stores a token; and the jar
that the client has before and after them. -/
inductive Quiet (app : Application) : Http.Jar → List Round → Http.Jar → Prop
  | nil {j : Http.Jar} : Quiet app j [] j
  | cons {j j' : Http.Jar} {v : Round} {rest : List Round}
      (hbare : v.request.headers.first? "cookie" = none) (hstores : ¬ v.Stores app j)
      (hrest : Quiet app (v.jarAfter app j) rest j') : Quiet app j (v :: rest) j'

theorem Quiet.tokenless {rounds : List Round} (h : Quiet app j rounds j')
    (hj : j.Tokenless app.framework.depth app.settings.secretKey) :
    j'.Tokenless app.framework.depth app.settings.secretKey := by
  induction h with
  | nil => exact hj
  | cons hbare hstores _ ih => exact ih (tokenless_jarAfter hj hbare hstores)

/-- A gate does not say that a token has expired if there is none to be shown. -/
theorem not_expired_of_tokenless (hj : j.Tokenless app.framework.depth app.settings.secretKey)
    (hbare : v.request.headers.first? "cookie" = none)
    (hheader : v.request.headers.first? "authorization" = none)
    (hrejected : v.Rejected app j e) : e.kind ≠ .expiredToken := by
  obtain ⟨before, t, after, hturns, hrejection⟩ := hrejected
  have hrequest : (v.along app j before).request = v.sent j := Exchange.along_request before _
  have hbrought : Exchange.Brought app (v.sent j) before (v.along app j before) :=
    Exchange.brought_along (v.sent j) before
  intro hkind
  rw [Exchange.rejection?] at hrejection
  split at hrejection
  · split at hrejection
    · next m params hstage =>
        split at hrejection
        · next d happroach =>
            have hinvalid := (Gate.approach_rejects happroach hrejection).2
            rw [hkind] at hinvalid
            cases hinvalid
        · cases hrejection
    · next m params token hstage =>
        simp only [Exchange.Brought, hstage] at hbrought
        obtain ⟨a, ha, -, -, htoken⟩ := hbrought
        obtain ⟨first, -, hload⟩ := Option.bind_eq_some_iff.mp ha
        have hsession : a.session.token? = none := (hj.load hbare hload).token?_eq_none
        have hbearer : Gate.headerToken? (v.sent j).headers = none := by
          rw [Gate.headerToken?, sent, Http.Jar.first?_attach (by decide), hheader]
          rfl
        rw [Gate.token?, Option.bind_some, hsession, hbearer] at htoken
        cases htoken
    · cases hrejection
  · cases hrejection

/-- After an expired token was rejected the jar has no token. -/
theorem tokenless_of_rejected (hfrom : v.IsFrom app j)
    (hobject : j.HoldsObject app.framework.depth app.settings.secretKey)
    (hrejected : v.Rejected app j e) (hkind : e.kind = .expiredToken) :
    (v.jarAfter app j).Tokenless app.framework.depth app.settings.secretKey := by
  obtain ⟨entries, hheld, hafter⟩ := held?_of_rejected hfrom hobject hrejected
  obtain ⟨members, -, rfl⟩ := hobject.restorable hheld
  rw [if_pos hkind, Session.tokenKey, Http.Jar.eraseEntry_ofJsonMembers] at hafter
  intro found hfound
  rw [hafter] at hfound
  injection hfound with hfound
  subst hfound
  rintro entry hentry ⟨hname, -⟩
  obtain ⟨m, hm, rfl⟩ := Session.exists_of_ofJsonMembers hentry
  have hne := (List.mem_filter.mp hm).2
  have heq : m.1 = "token" := Except.ok.inj hname
  simp [heq] at hne

/-- A client that was told that its token has expired comes back with the session that it
had, but without the token; and it is not told so again, until a handler stores a token or
the client shows one in a header. After any other rejection it comes back with the session
as it was. -/
theorem no_stale_token (hfrom : v.IsFrom app j)
    (hobject : j.HoldsObject app.framework.depth app.settings.secretKey)
    (hrejected : v.Rejected app j e) :
    ∃ s, v.session? app j = some s ∧
      (e.kind = .expiredToken →
        (∀ w : Round, w.IsFrom app (v.jarAfter app j) →
          ∃ s', w.session? app (v.jarAfter app j) = some s' ∧
            s'.get? Session.tokenKey = none ∧
            s'.entries = Value.eraseEntry Session.tokenKey s.entries) ∧
        ∀ later j' (w : Round) e', Quiet app (v.jarAfter app j) later j' →
          w.request.headers.first? "cookie" = none →
          w.request.headers.first? "authorization" = none →
          w.Rejected app j' e' → e'.kind ≠ .expiredToken) ∧
      (e.kind = .invalidToken ∨ e.kind = .forbidden →
        ∀ w : Round, w.IsFrom app (v.jarAfter app j) →
          w.session? app (v.jarAfter app j) = some s) := by
  obtain ⟨entries, hheld, hafter⟩ := held?_of_rejected hfrom hobject hrejected
  refine ⟨.ofEntries entries, by rw [hfrom.session?_eq, hheld]; rfl, fun hkind => ⟨?_, ?_⟩, ?_⟩
  · intro w hw
    rw [if_pos hkind] at hafter
    refine ⟨_, by rw [hw.session?_eq, hafter]; rfl, ?_, rfl⟩
    exact Session.entry?_eraseEntry _ _
  · intro later j' w e' hquiet hbare hheader hagain
    exact not_expired_of_tokenless
      (hquiet.tokenless (tokenless_of_rejected hfrom hobject hrejected hkind)) hbare hheader hagain
  · intro hkind w hw
    have hother : e.kind ≠ .expiredToken := by
      rcases hkind with hkind | hkind
      · rw [hkind]; decide
      · rw [hkind]; decide
    rw [if_neg hother] at hafter
    rw [hw.session?_eq, hafter]
    rfl

/-! ## A client with an expired token -/

def profile : RouteEntry Handler := ⟨"/api/v1/me", "get", ⟨false, none⟩, ⟨"me", [.giveIdentity]⟩⟩

/-- An application whose verifier takes no token any more. -/
def weary : Application :=
  ⟨{ rateLimitEnabled := false, secretKey := "hush" }, fun _ _ => .ok .expired, .bare,
    [profile], Http.Mounted.plainPlaces profile⟩

def instant : Turn := ⟨⟨0, .smooth "", false⟩, default⟩

def knock : Round :=
  ⟨⟨"GET", "/api/v1/me", "", [], "", none, none⟩, List.replicate 7 instant⟩

/-- The jar of a client to whom these members were sent. -/
def holding (members : List (String × Json)) : Http.Jar :=
  ⟨some (Http.SessionCookie.ofJson "hush" 0 (.obj members))⟩

def stale : List (String × Json) := [("token", .str "old"), ("user", .str "ann")]

theorem held?_stale (depth : Nat) :
    (holding stale).held? depth "hush" = some (Value.ofJsonMembers stale) := by
  refine Http.Jar.held?_ofJson_obj (.obj (by decide) fun m hm => ?_) (by decide)
  rcases List.mem_cons.mp hm with rfl | hm
  · exact .str "old"
  · rw [List.mem_singleton.mp hm]
    exact .str "ann"

theorem entry?_stale :
    Value.entry? Session.tokenKey (Value.ofJsonMembers stale) = some (.str "old") := by
  simp only [stale, Session.tokenKey, Value.ofJsonMembers, Value.ofJson, Value.entry?,
    Value.same_str_str]
  rfl

theorem holding_isFresh (members : List (String × Json)) :
    (holding members).IsFresh "hush" 0 :=
  Http.Jar.isFresh_ofJson "hush" 0 (.obj members)

theorem knock_isFrom (members : List (String × Json)) : knock.IsFrom weary (holding members) := by
  refine ⟨rfl, by decide, ?_, ?_⟩
  · intro t ht
    rw [List.eq_of_mem_replicate ht]
    decide
  · rintro t ⟨⟩
    exact holding_isFresh members

theorem knock_rejected : knock.Rejected weary (holding stale) ⟨.expiredToken, ""⟩ := by
  have hload : weary.load (Application.second instant.moment.now) (knock.sent (holding stale)) =
      some ⟨.ofEntries (Value.ofJsonMembers stale), ((holding stale).signed? "hush").isSome⟩ := by
    refine (Http.Jar.load_attach_of_isFresh rfl (holding_isFresh stale)).trans ?_
    rw [held?_stale]
    rfl
  have hplace : Http.Router.destination weary.places (knock.sent (holding stale)) =
      .place ⟨profile.path, profile.path.toList.map .literal, profile.methods,
        profile.operationId, true, profile⟩ [] := rfl
  have htoken : Gate.token? (some (.ofEntries (Value.ofJsonMembers stale)))
      (knock.sent (holding stale)).headers = some (.str "old") :=
    Gate.token?_eq_some_iff.mpr ⟨by decide, Or.inl entry?_stale⟩
  have happroach : Gate.approach profile.policy (knock.sent (holding stale))
      (some (.ofEntries (Value.ofJsonMembers stale))) =
        .showing (.str "old") (some (Session.ofEntries (Value.ofJsonMembers stale)).touch) := by
    simp only [Gate.approach, profile, Bool.false_eq_true, ↓reduceIte, htoken, Option.map_some]
  refine ⟨[instant, instant], instant, List.replicate 4 instant, rfl, ?_⟩
  have hrouted := Exchange.step_routed (r := knock.sent (holding stale)) instant.standing rfl rfl
    hload hplace
  rw [along, Exchange.along_cons, hrouted, Exchange.along_cons, Exchange.step_of_hasAddress rfl]
  exact (congrArg (Exchange.rejection? weary 0) (Exchange.approach_of_showing happroach)).trans rfl

theorem knock_jarAfter :
    knock.jarAfter weary (holding stale) = holding [("user", .str "ann")] := by
  obtain ⟨entries, t, ht, hheld, hjar⟩ := jarAfter_of_rejected (knock_isFrom stale) knock_rejected
  obtain rfl := Option.some.inj ((held?_stale _).symm.trans hheld)
  refine hjar _ ?_
  rw [List.eq_of_mem_replicate ht, if_pos rfl, Http.Jar.pop_of_entry entry?_stale,
    Session.tokenKey, Http.Jar.eraseEntry_ofJsonMembers]
  rfl

/-- Told once, the client comes back without its token and is not told again. -/
theorem knock_again :
    knock.IsFrom weary (holding stale) ∧
      (holding stale).HoldsObject weary.framework.depth weary.settings.secretKey ∧
      knock.Rejected weary (holding stale) ⟨.expiredToken, ""⟩ ∧
      (∃ s, knock.session? weary (knock.jarAfter weary (holding stale)) = some s ∧
        s.get? Session.tokenKey = none ∧ s.entries = [(.str "user", .str "ann")]) ∧
      ∀ e, knock.Rejected weary (knock.jarAfter weary (holding stale)) e →
        e.kind ≠ .expiredToken := by
  have hobject : (holding stale).HoldsObject weary.framework.depth weary.settings.secretKey :=
    Http.Jar.holdsObject_ofJson "hush" 0 stale
  obtain ⟨s, hs, hexpired, -⟩ := no_stale_token (knock_isFrom stale) hobject knock_rejected
  obtain ⟨hnext, hlater⟩ := hexpired rfl
  refine ⟨knock_isFrom stale, hobject, knock_rejected, ?_, ?_⟩
  · obtain ⟨s', hs', htoken, hentries⟩ := hnext knock (by rw [knock_jarAfter]; exact knock_isFrom _)
    refine ⟨s', hs', htoken, ?_⟩
    rw [(knock_isFrom stale).session?_eq] at hs
    obtain ⟨found, hfound, rfl⟩ := Option.map_eq_some_iff.mp hs
    obtain rfl := Option.some.inj ((held?_stale _).symm.trans hfound)
    rw [hentries, Session.ofEntries, Session.tokenKey, Http.Jar.eraseEntry_ofJsonMembers]
    rfl
  · intro e hagain
    exact hlater [] _ knock e .nil rfl rfl hagain

end Round

end Gatehouse
