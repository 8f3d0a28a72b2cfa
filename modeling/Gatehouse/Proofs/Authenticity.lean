import Gatehouse.Application
import Gatehouse.Outcome
import Gatehouse.Proofs.TokenRoundTrip

/-!
# Only an authentic token is believed

Whatever text is shown as a token, there are three things that a verifier settles before it
looks at what the token says: where its dots are, which algorithm its header names, and
whether a key of the secret gives its signature. A verdict other than `invalid` comes from
behind all three. So nobody is believed without a key, and a token that has expired is one
that was good.

The argument has two halves. `verify_of_presents` and `verify_of_not_presents` say what a
verifier does with a text in terms of these three things, and `runChecks_eq_ok_iff` says how
the claims come to a verdict.
-/

namespace Gatehouse.Token

open Dotted (dot)

/-! ## Taking a token apart -/

/-- Whether a token consists of these parts: they are joined by its first and its last dot. -/
structure FallsInto (token : String) (header payload mark : List UInt8) : Prop where
  joined : Text.Utf8.bytes token = header ++ dot :: payload ++ dot :: mark
  first : dot ∉ header
  last : dot ∉ mark

theorem parts?_eq_some_iff {token : String} {p : Parts} :
    parts? token = some p ↔ ∃ header payload mark, FallsInto token header payload mark ∧
      Base64.decodeBytes? header = some p.header ∧
      Base64.decodeBytes? payload = some p.payload ∧
      Base64.decodeBytes? mark = some p.signature ∧ p.signed = header ++ dot :: payload := by
  rw [parts?]
  constructor
  · intro h
    simp only [Option.bind_eq_bind, Option.bind_eq_some_iff] at h
    obtain ⟨⟨signed, mark⟩, hlast, ⟨header, payload⟩, hfirst, bytes, hheader, claims, hpayload,
      digest, hmark, hp⟩ := h
    obtain ⟨hjoined, hlast⟩ := Dotted.splitLast_eq_some_iff.mp hlast
    obtain ⟨hsigned, hfirst⟩ := Dotted.splitFirst_eq_some_iff.mp hfirst
    injection hp with hp
    subst hp
    exact ⟨header, payload, mark, ⟨hsigned ▸ hjoined, hfirst, hlast⟩, hheader, hpayload, hmark,
      hsigned⟩
  · rintro ⟨header, payload, mark, ⟨hjoined, hfirst, hlast⟩, hheader, hpayload, hmark, hsigned⟩
    rw [hjoined, Dotted.splitLast_dot hlast]
    simp only [Option.bind_eq_bind, Option.bind_some, Dotted.splitFirst_dot hfirst, hheader,
      hpayload, hmark]
    rw [← hsigned]
    rfl

/-- Whether bytes are a JSON object that names an algorithm. -/
def Names (depths : Depths) (a : Algorithm) (header : List UInt8) : Prop :=
  ∃ members, objectOf depths.header header = .ok (some members) ∧
    members.lookup "alg" = some (.str a.name)

theorem namesAlgorithm_iff {a : Algorithm} {c : Config} (hname : c.algorithm = a.name)
    (members : List (String × Json)) :
    namesAlgorithm c members = true ↔ members.lookup "alg" = some (.str a.name) := by
  have hfilled : a.name.isEmpty = false := by cases a <;> rfl
  rw [namesAlgorithm, hname]
  split
  · next name heq =>
      rw [heq]
      simp only [Bool.and_eq_true, beq_iff_eq, Option.some.injEq, Json.str.injEq,
        and_iff_right_iff_imp]
      rintro rfl
      simp [hfilled]
  · next hother => simpa using hother a.name

/-! ## The keys of a secret -/

section Keys

variable {depths : Depths} {a : Algorithm} {signed given : List UInt8} {keys : List Datum}
  {secret : Datum}

theorem makeKey_name (a : Algorithm) (candidate : Datum) :
    makeKey a.name candidate = (keyBytes candidate).map fun key => some (a, key) := by
  have hscheme : Scheme.ofName? a.name = some (.keyed a) := by cases a <;> rfl
  rw [makeKey, hscheme]

theorem signedByAny_cons (candidate : Datum) :
    signedByAny a.name signed given (candidate :: keys) =
      match keyBytes candidate with
      | .error why => .error why
      | .ok key =>
        if signature a key signed = given then .ok true
        else signedByAny a.name signed given keys := by
  rw [signedByAny, makeKey_name]
  cases keyBytes candidate <;> rfl

/-- A key is found if those ahead of it can be used. -/
theorem signedByAny_eq_true_iff :
    signedByAny a.name signed given keys = .ok true ↔
      Reaches (fun other => ∃ bytes, keyBytes other = .ok bytes)
        (fun candidate => ∃ key, keyBytes candidate = .ok key ∧ signature a key signed = given)
        keys := by
  induction keys with
  | nil => simp [signedByAny, not_reaches_nil]
  | cons candidate keys ih =>
      rw [signedByAny_cons, reaches_cons, ← ih]
      cases keyBytes candidate with
      | error why => simp
      | ok key => by_cases hgives : signature a key signed = given <;> simp [hgives]

/-- Whether a secret vouches for a text with a digest: one of the keys that it stands for
gives the digest, and those ahead of the key can be used. -/
def Recognizes (depths : Depths) (a : Algorithm) (secret : Datum)
    (signed given : List UInt8) : Prop :=
  ∃ keys, candidates depths.secret secret = .ok keys ∧
    Reaches (fun other => ∃ bytes, keyBytes other = .ok bytes)
      (fun candidate => ∃ key, keyBytes candidate = .ok key ∧ signature a key signed = given) keys

/-- What becomes of a signature. -/
def signedBySecret (depths : Depths) (a : Algorithm) (secret : Datum) (signed given : List UInt8) :
    Except KeyFault Bool := do
  let keys ← candidates depths.secret secret
  signedByAny a.name signed given keys

theorem signedBySecret_eq_true_iff :
    signedBySecret depths a secret signed given = .ok true ↔
      Recognizes depths a secret signed given := by
  rw [signedBySecret, Recognizes]
  cases candidates depths.secret secret with
  | error why => simp [bind, Except.bind]
  | ok keys => simp [bind, Except.bind, signedByAny_eq_true_iff]

end Keys

/-! ## How far a verifier gets -/

section Verify

variable {depths : Depths} {a : Algorithm} {secret lifetime : Datum} {now : Int} {token : String}
  {p : Parts} {r : Except VerifyFault Verdict}

/-- Whether a token has parts that can be read, and a header that names the algorithm. -/
structure Presents (depths : Depths) (a : Algorithm) (token : String) (p : Parts) : Prop where
  parts : parts? token = some p
  names : Names depths a p.header

/-- The claims are looked at only behind a signature that is right. -/
theorem verify_of_presents (h : Presents depths a token p) :
    verify ⟨secret, a.name, lifetime, depths⟩ now token =
      match signedBySecret depths a secret p.signed p.signature with
      | .error why => .error (.badKey why)
      | .ok false => .ok .invalid
      | .ok true => judge depths.payload (secondOf now) p.payload := by
  obtain ⟨members, hmembers, halg⟩ := h.names
  have hnames := (namesAlgorithm_iff (c := ⟨secret, a.name, lifetime, depths⟩) rfl members).mpr halg
  rw [verify, header?_of_parts? h.parts, signedBySecret]
  simp only [hmembers, h.parts, hnames, ↓reduceIte]
  cases candidates depths.secret secret with
  | error why => rfl
  | ok keys => rfl

/-- Without a header that names the algorithm the most that can happen is that the header
cannot be read. -/
theorem verify_of_not_presents (h : ∀ p, ¬ Presents depths a token p)
    (hr : verify ⟨secret, a.name, lifetime, depths⟩ now token = r) :
    r = .ok .invalid ∨ ∃ header why, header? token = some header ∧
      objectOf depths.header header = .error why ∧ r = .error (.tooDeep why) := by
  subst hr
  rw [verify]
  cases hfound : header? token with
  | none => exact Or.inl rfl
  | some header =>
      cases hheader : objectOf depths.header header with
      | error why => exact Or.inr ⟨header, why, rfl, hheader, by simp only [hheader]⟩
      | ok found =>
          cases found with
          | none => exact Or.inl (by simp only [hheader])
          | some members =>
              cases hparts : parts? token with
              | none => exact Or.inl (by simp only [hheader])
              | some p =>
                  have hother :
                      namesAlgorithm ⟨secret, a.name, lifetime, depths⟩ members ≠ true := by
                    intro hnames
                    have hsame : p.header = header :=
                      Option.some.inj ((header?_of_parts? hparts).symm.trans hfound)
                    have halg := (namesAlgorithm_iff (a := a) rfl members).mp hnames
                    exact h p ⟨hparts, members, hsame ▸ hheader, halg⟩
                  exact Or.inl (by simp only [hheader, hother, Bool.false_eq_true, ↓reduceIte])

/-- A verdict other than `invalid` is one on the claims of a token with a right signature. -/
theorem judge_of_verify {v : Verdict} (hv : v ≠ .invalid)
    (h : verify ⟨secret, a.name, lifetime, depths⟩ now token = .ok v) :
    ∃ p, Presents depths a token p ∧ Recognizes depths a secret p.signed p.signature ∧
      judge depths.payload (secondOf now) p.payload = .ok v := by
  by_cases hpresents : ∃ p, Presents depths a token p
  · obtain ⟨p, hp⟩ := hpresents
    rw [verify_of_presents hp] at h
    cases hsigned : signedBySecret depths a secret p.signed p.signature with
    | error why =>
        rw [hsigned] at h
        cases h
    | ok found =>
        rw [hsigned] at h
        cases found with
        | false =>
            injection h with h
            exact absurd h.symm hv
        | true => exact ⟨p, hp, signedBySecret_eq_true_iff.mp hsigned, h⟩
  · rcases verify_of_not_presents (not_exists.mp hpresents) h with h | ⟨header, why, -, -, h⟩
    · injection h with h
      exact absurd h hv
    · cases h

end Verify

/-! ## The claims -/

section Claims

variable {claims : List (String × Json)} {checks : List ClaimCheck} {v : Verdict} {second : Int}

/-- The first check that does not leave the matter open ends it; if there is none, the claims
are those of their bearer. -/
theorem runChecks_eq_ok_iff :
    runChecks claims checks = .ok v ↔
      Reaches (fun check => check claims = .ok none) (fun check => check claims = .ok (some v))
        checks ∨
      (∀ check ∈ checks, check claims = .ok none) ∧ v = bearer claims := by
  induction checks with
  | nil => simp [runChecks, not_reaches_nil, eq_comm]
  | cons check checks ih =>
      rw [runChecks, reaches_cons, List.forall_mem_cons, and_assoc]
      cases check claims with
      | error f => simp
      | ok found => cases found <;> simp [ih]

theorem timeCheck_eq_none_iff {name : String} {judge : Int → Option Verdict} :
    timeCheck name judge claims = .ok none ↔
      ∀ v, claims.lookup name = some v → ∃ n, wholeSeconds v = .ok (some n) ∧ judge n = none := by
  rw [timeCheck]
  cases claims.lookup name with
  | none => simp
  | some v =>
      simp only [Option.some.injEq, forall_eq']
      cases wholeSeconds v with
      | error f => simp
      | ok found => cases found <;> simp

theorem timeCheck_ne_accepted {name : String} {judge : Int → Option Verdict}
    (h : ∀ n i, judge n ≠ some (.accepted i)) (i : Identity) :
    timeCheck name judge claims ≠ .ok (some (.accepted i)) := by
  rw [timeCheck]
  cases claims.lookup name with
  | none => simp
  | some v =>
      dsimp only
      cases wholeSeconds v with
      | error f => simp
      | ok found =>
          cases found with
          | none => simp
          | some n => simpa using h n i

theorem absenceCheck_eq_none_iff {name : String} :
    absenceCheck name claims = .ok none ↔ claims.lookup name = none := by
  rw [absenceCheck]
  cases claims.lookup name <;> simp

/-- No check accepts anybody: it ends the matter only for the worse. -/
theorem ne_accepted_of_mem_claimChecks {check : ClaimCheck} (h : check ∈ claimChecks second)
    (i : Identity) : check claims ≠ .ok (some (.accepted i)) := by
  have hunless : ∀ {b : Bool} {w : Verdict}, (∀ j, w ≠ .accepted j) →
      (if b then some w else none) ≠ some (.accepted i) := by
    intro b w hw heq
    cases b with
    | false => cases heq
    | true => exact hw i (Option.some.inj heq)
  have habsent : ∀ name, absenceCheck name claims ≠ .ok (some (.accepted i)) := by
    intro name heq
    exact hunless (w := .invalid) (by simp) (Except.ok.inj heq)
  have htext : ∀ name, textCheck name claims ≠ .ok (some (.accepted i)) := by
    intro name heq
    rw [textCheck] at heq
    split at heq <;> cases heq
  rw [claimChecks] at h
  simp only [List.mem_cons, List.not_mem_nil, or_false] at h
  rcases h with rfl | rfl | rfl | rfl | rfl | rfl | rfl
  · exact timeCheck_ne_accepted (by simp) i
  · refine timeCheck_ne_accepted (fun n j => ?_) i
    by_cases hn : second < n <;> simp [hn]
  · refine timeCheck_ne_accepted (fun n j => ?_) i
    by_cases hn : n < second <;> simp [hn]
  · exact habsent "aud"
  · exact htext "sub"
  · exact htext "jti"
  · exact habsent "at_hash"

/-- Whether claims, looked at in a second, are those of an identity. -/
structure Vouches (claims : List (String × Json)) (second : Int) (i : Identity) : Prop where
  subject : claims.lookup "sub" = some i.subject
  role : claims.lookup "role" = some i.role
  subject_isText : isText i.subject = true
  role_isText : isText i.role = true
  aimed_at_nobody : claims.lookup "aud" = none
  no_hash : claims.lookup "at_hash" = none
  lasts : ∀ v, claims.lookup "exp" = some v → ∃ n, wholeSeconds v = .ok (some n) ∧ second ≤ n

theorem bearer_eq_accepted_iff {i : Identity} :
    bearer claims = .accepted i ↔ claims.lookup "sub" = some i.subject ∧
      claims.lookup "role" = some i.role ∧ isText i.subject = true ∧ isText i.role = true := by
  obtain ⟨subject, role⟩ := i
  rw [bearer]
  cases claims.lookup "sub" with
  | none => simp
  | some found =>
      cases claims.lookup "role" with
      | none => simp
      | some found' =>
          by_cases htext : isText found && isText found'
          · simp only [htext, ↓reduceIte, Verdict.accepted.injEq, Identity.mk.injEq,
              Option.some.injEq]
            constructor
            · rintro ⟨rfl, rfl⟩
              simpa using htext
            · exact fun h => ⟨h.1, h.2.1⟩
          · simp only [htext, Bool.false_eq_true, ↓reduceIte, reduceCtorEq, Option.some.injEq,
              false_iff]
            rintro ⟨rfl, rfl, hsubject, hrole⟩
            exact htext (by rw [hsubject, hrole]; rfl)

/-- Whoever is accepted has passed all checks. -/
theorem open_of_accepted {i : Identity}
    (h : runChecks claims (claimChecks second) = .ok (.accepted i)) :
    (∀ check ∈ claimChecks second, check claims = .ok none) ∧ bearer claims = .accepted i := by
  rcases runChecks_eq_ok_iff.mp h with ⟨ahead, check, behind, hchecks, -, hcheck⟩ | ⟨hopen, hv⟩
  · have hmem : check ∈ claimChecks second := hchecks ▸ by simp
    exact absurd hcheck (ne_accepted_of_mem_claimChecks hmem i)
  · exact ⟨hopen, hv.symm⟩

theorem vouches_of_runChecks {i : Identity}
    (h : runChecks claims (claimChecks second) = .ok (.accepted i)) : Vouches claims second i := by
  obtain ⟨hopen, hbearer⟩ := open_of_accepted h
  obtain ⟨hsubject, hrole, hsubject', hrole'⟩ := bearer_eq_accepted_iff.mp hbearer
  simp only [claimChecks, List.forall_mem_cons, absenceCheck_eq_none_iff,
    timeCheck_eq_none_iff] at hopen
  obtain ⟨-, -, hends, haudience, -, -, hhash, -⟩ := hopen
  refine ⟨hsubject, hrole, hsubject', hrole', haudience, hhash, fun v hv => ?_⟩
  obtain ⟨n, hn, hlate⟩ := hends v hv
  refine ⟨n, hn, ?_⟩
  by_contra hover
  rw [if_pos (by omega)] at hlate
  cases hlate

end Claims

/-! ## Authentic tokens -/

section Authentic

variable {depths : Depths} {a : Algorithm} {secret lifetime : Datum} {now : Int}

/-- Whether a token consists of these parts and is signed with the algorithm that its header
names, under a key of the secret. -/
structure Authentic (depths : Depths) (a : Algorithm) (secret : Datum) (token : String)
    (header payload mark : List UInt8) : Prop where
  parts : FallsInto token header payload mark
  names : ∃ bytes, Base64.decodeBytes? header = some bytes ∧ Names depths a bytes
  signed : ∃ digest, Base64.decodeBytes? mark = some digest ∧
    Recognizes depths a secret (header ++ dot :: payload) digest

/-- Whether a payload, looked at in a second, stands for an identity. -/
def Attests (depths : Depths) (payload : List UInt8) (second : Int) (i : Identity) : Prop :=
  ∃ bytes claims, Base64.decodeBytes? payload = some bytes ∧
    objectOf depths.payload bytes = .ok (some claims) ∧ Vouches claims second i

theorem authentic_of_verify {token : String} {v : Verdict} (hv : v ≠ .invalid)
    (h : verify ⟨secret, a.name, lifetime, depths⟩ now token = .ok v) :
    ∃ header payload mark, Authentic depths a secret token header payload mark ∧
      ∀ i, v = .accepted i → Attests depths payload (secondOf now) i := by
  obtain ⟨p, ⟨hparts, hnames⟩, hsigned, hjudge⟩ := judge_of_verify hv h
  obtain ⟨header, payload, mark, hfalls, hheader, hpayload, hmark, htext⟩ :=
    parts?_eq_some_iff.mp hparts
  rw [htext] at hsigned
  refine ⟨header, payload, mark, ⟨hfalls, ⟨_, hheader, hnames⟩, ⟨_, hmark, hsigned⟩⟩, ?_⟩
  rintro i rfl
  rw [judge] at hjudge
  cases hobject : objectOf depths.payload p.payload with
  | error why =>
      rw [hobject] at hjudge
      cases hjudge
  | ok found =>
      rw [hobject] at hjudge
      cases found with
      | none => cases hjudge
      | some claims => exact ⟨p.payload, claims, hpayload, hobject, vouches_of_runChecks hjudge⟩

end Authentic

end Gatehouse.Token

namespace Gatehouse

/-- Whether a decision turns a request away, as one with an invalid token or with a fault, and
takes nothing out of its session. -/
structure Gate.TurnsAway (d : Decision) (session : Option Session) : Prop where
  keeps : d.session = session.map Session.touch
  refuses : d.outcome = .ok (.reject ⟨.invalidToken, ""⟩) ∨ ∃ f, d.outcome = .error f

theorem Gate.check_turnsAway {policy : Policy} {verify : Verifier} {r : Http.Request}
    {session : Option Session} {token : Datum} (hguarded : policy.isPublic = false)
    (htoken : token? session r.headers = some token)
    (h : ∀ v, verify token = .ok v → v = .invalid) :
    TurnsAway (check policy verify r session) session := by
  have hcheck : check policy verify r session =
      settle r policy.roles (session.map Session.touch) token (verify token) := by
    rw [check, approach, hguarded, htoken]
    rfl
  rw [hcheck]
  cases hverdict : verify token with
  | error f => exact ⟨rfl, Or.inr ⟨f, rfl⟩⟩
  | ok v =>
      obtain rfl := h v hverdict
      exact ⟨rfl, Or.inl rfl⟩

namespace Token

/-- A verifier believes a token, even as one that has expired, only if it is authentic, and
takes from it just whom its payload stands for. So at the gate a token that is not authentic
lets nobody pass, and does not take away the token that is in the session. -/
theorem believed_authentic (depths : Depths) (a : Algorithm) (secret lifetime : Datum) (now : Int) :
    (∀ shown v, verifyDatum ⟨secret, a.name, lifetime, depths⟩ now shown = .ok v → v ≠ .invalid →
      ∃ token header payload mark, shown = .str token ∧
        Authentic depths a secret token header payload mark ∧
        ∀ i, v = .accepted i → Attests depths payload (secondOf now) i) ∧
    ∀ policy r session shown, policy.isPublic = false →
      Gate.token? session r.headers = some shown →
      (∀ token header payload mark, shown = .str token →
        ¬ Authentic depths a secret token header payload mark) →
      Gate.TurnsAway
        (Gate.check policy (Application.tokenVerifier ⟨secret, a.name, lifetime, depths⟩ now) r
          session)
        session := by
  have hbelieved : ∀ shown v, verifyDatum ⟨secret, a.name, lifetime, depths⟩ now shown = .ok v →
      v ≠ .invalid → ∃ token header payload mark, shown = .str token ∧
        Authentic depths a secret token header payload mark ∧
        ∀ i, v = .accepted i → Attests depths payload (secondOf now) i := by
    intro shown v h hv
    cases shown with
    | str token =>
        obtain ⟨header, payload, mark, hauthentic, hattests⟩ := authentic_of_verify hv h
        exact ⟨token, header, payload, mark, rfl, hauthentic, hattests⟩
    | unpaired points => cases h
    | _ =>
        injection h with h
        exact absurd h.symm hv
  refine ⟨hbelieved, fun policy r session shown hguarded htoken hforged => ?_⟩
  refine Gate.check_turnsAway hguarded htoken fun v hverdict => ?_
  by_contra hv
  rw [Application.tokenVerifier] at hverdict
  cases hverify : verifyDatum ⟨secret, a.name, lifetime, depths⟩ now shown with
  | error f =>
      rw [hverify] at hverdict
      cases hverdict
  | ok w =>
      rw [hverify] at hverdict
      injection hverdict with hw
      obtain ⟨token, header, payload, mark, htext, hauthentic, -⟩ :=
        hbelieved shown w hverify (hw ▸ hv)
      exact hforged token header payload mark htext hauthentic

/-- What a token says that Ann has got. -/
def annClaims : List (String × Json) :=
  [("sub", .str "ann"), ("role", .str "admin"), ("exp", .int 1700000060)]

theorem restorable_annClaims : Json.Restorable 1 (.obj annClaims) := by
  have hnames : ["sub", "role", "exp"].Nodup := by decide
  have hcalendar : OnCalendar 1700000060000000 := ⟨by decide, by decide⟩
  have hshort : Json.isShort 1700000060 = true := isShort_of_onCalendar hcalendar
  refine .obj hnames fun m hm => ?_
  simp only [annClaims, List.mem_cons, List.not_mem_nil, or_false] at hm
  rcases hm with rfl | rfl | rfl
  · exact .str _
  · exact .str _
  · exact .int hshort

theorem open_sesame_authentic :
    (∃ token header payload mark,
      verifyDatum ⟨.str "open sesame", "HS256", .int 60, flat⟩ 1700000000000000 (.str token) =
        .ok (.accepted ⟨.str "ann", .str "admin"⟩) ∧
      Authentic flat .hs256 (.str "open sesame") token header payload mark ∧
      Attests flat payload 1700000000 ⟨.str "ann", .str "admin"⟩) ∧
    ∀ r : Http.Request, Gate.TurnsAway
      (Gate.check ⟨false, none⟩
        (Application.tokenVerifier ⟨.str "open sesame", "HS256", .int 60, flat⟩ 1700000000000000) r
        (some (.ofEntries [(Session.tokenKey, .str "key")])))
      (some (.ofEntries [(Session.tokenKey, .str "key")])) := by
  have hsecond : secondOf 1700000000000000 = 1700000000 := by decide
  have hverify : verifyDatum ⟨.str "open sesame", "HS256", .int 60, flat⟩ 1700000000000000
      (.str (tokenOf .hs256 (Text.Utf8.bytes "open sesame") (.obj annClaims))) =
        .ok (.accepted ⟨.str "ann", .str "admin"⟩) := by
    have hopened : verify ⟨.str "open sesame", "HS256", .int 60, flat⟩ 1700000000000000
        (tokenOf .hs256 (Text.Utf8.bytes "open sesame") (.obj annClaims)) =
          runChecks annClaims (claimChecks (secondOf 1700000000000000)) :=
      verify_tokenOf (a := .hs256) (by rfl) (by decide) restorable_annClaims 1700000000000000
    rw [verifyDatum]
    refine hopened.trans ?_
    rw [annClaims, runChecks_issued (.str _) (.str _), hsecond, if_pos (by decide)]
  have hnodot : Dotted.dot ∉ Text.Utf8.bytes "key" := by decide
  constructor
  · obtain ⟨token, header, payload, mark, htoken, hauthentic, hattests⟩ :=
      (believed_authentic flat .hs256 (.str "open sesame") (.int 60) 1700000000000000).1 _ _ hverify
        (by simp)
    injection htoken with htoken
    subst htoken
    refine ⟨_, header, payload, mark, hverify, hauthentic, ?_⟩
    rw [← hsecond]
    exact hattests _ rfl
  · intro r
    have htoken : Gate.token? (some (.ofEntries [(Session.tokenKey, .str "key")])) r.headers =
        some (.str "key") := by
      have hown : (Session.ofEntries [(Session.tokenKey, .str "key")]).token? =
          some (.str "key") := by
        simp [Session.token?, Session.get?, Session.ofEntries, Value.entry?, Session.tokenKey,
          Value.same_str_str, Value.isFilledText]
      rw [Gate.token?, Option.bind_some, hown]
      rfl
    refine (believed_authentic flat .hs256 (.str "open sesame") (.int 60) 1700000000000000).2
      ⟨false, none⟩ r _ (.str "key") rfl htoken ?_
    rintro _ header payload mark ⟨⟩ ⟨hfalls, -, -⟩
    refine hnodot ?_
    rw [hfalls.joined]
    simp

end Token

end Gatehouse
