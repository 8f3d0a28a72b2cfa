import Gatehouse.Proofs.Authenticity
import Gatehouse.Settings.Load

/-!
# When a verifier gives no verdict

A verifier is meant to answer whatever it is shown. It does not where something that it
relies on gives up: the token has no bytes, the header or the payload is nested too deep, the
secret is JSON that stands for something that is no key, or a time is no number. The last
takes a right signature, and so does a payload that is too deep.

`Breaks` lists these ways, and `verifyDatum_eq_error_iff` says that there are no others. It
follows the verifier from the front: behind each stage that was passed stands the next one
that can give up.
-/

namespace Gatehouse.Token

/-! ## Times that are no numbers -/

/-- What cannot be taken for a time, and what is said about it. -/
inductive Unfit : Json → VerifyFault → Prop
  | infinite (negative : Bool) : Unfit (.float (.infinite negative)) .infiniteTime
  | null : Unfit .null (.notANumber "NoneType")
  | arr (items : List Json) : Unfit (.arr items) (.notANumber "list")
  | obj (members : List (String × Json)) : Unfit (.obj members) (.notANumber "dict")

variable {depths : Depths} {a : Algorithm} {secret lifetime shown : Datum} {now second : Int}
  {claims : List (String × Json)} {checks : List ClaimCheck} {f : VerifyFault}

theorem wholeSeconds_eq_error_iff {v : Json} : wholeSeconds v = .error f ↔ Unfit v f := by
  constructor
  · intro h
    cases v with
    | null =>
        injection h with h
        exact h ▸ .null
    | arr items =>
        injection h with h
        exact h ▸ .arr items
    | obj members =>
        injection h with h
        exact h ▸ .obj members
    | float x =>
        cases x with
        | infinite negative =>
            injection h with h
            exact h ▸ .infinite negative
        | _ => cases h
    | _ => cases h
  · intro h
    cases h <;> rfl

theorem timeCheck_eq_error_iff {name : String} {judge : Int → Option Verdict} :
    timeCheck name judge claims = .error f ↔ ∃ v, claims.lookup name = some v ∧ Unfit v f := by
  rw [timeCheck]
  cases claims.lookup name with
  | none => simp
  | some v =>
      simp only [Option.some.injEq, exists_eq_left', ← wholeSeconds_eq_error_iff]
      cases wholeSeconds v with
      | error g => simp
      | ok found => cases found <;> simp

/-- The checks break off at the first that is not passed, if that one fails. -/
theorem runChecks_eq_error_iff :
    runChecks claims checks = .error f ↔
      Reaches (fun check => check claims = .ok none) (fun check => check claims = .error f)
        checks := by
  induction checks with
  | nil => simp [runChecks, not_reaches_nil]
  | cons check checks ih =>
      rw [runChecks, reaches_cons]
      cases check claims with
      | error g => simp
      | ok found => cases found <;> simp [ih]

/-- Whether claims have no time of this name, or one that lets the checks go on. -/
def Passes (claims : List (String × Json)) (name : String) (fits : Int → Prop) : Prop :=
  ∀ v, claims.lookup name = some v → ∃ n, wholeSeconds v = .ok (some n) ∧ fits n

/-- Whether claims have a time that is no number and that is looked at in a second: when the
token was issued, from when it holds if it does already, and until when. -/
inductive Spoils (claims : List (String × Json)) (second : Int) (f : VerifyFault) : Prop
  | issued {v : Json} (htime : claims.lookup "iat" = some v) (hv : Unfit v f)
  | begins {v : Json} (hissued : Passes claims "iat" fun _ => True)
      (htime : claims.lookup "nbf" = some v) (hv : Unfit v f)
  | ends {v : Json} (hissued : Passes claims "iat" fun _ => True)
      (hbegins : Passes claims "nbf" fun n => n ≤ second)
      (htime : claims.lookup "exp" = some v) (hv : Unfit v f)

theorem runChecks_claimChecks_eq_error_iff :
    runChecks claims (claimChecks second) = .error f ↔ Spoils claims second f := by
  have hissued : timeCheck "iat" (fun _ => none) claims = .ok none ↔
      Passes claims "iat" fun _ => True := by
    simp only [timeCheck_eq_none_iff, Passes]
  have hbegins : timeCheck "nbf" (fun n => if second < n then some .invalid else none) claims =
      .ok none ↔ Passes claims "nbf" fun n => n ≤ second := by
    simp only [timeCheck_eq_none_iff, Passes, ite_eq_right_iff, reduceCtorEq, imp_false,
      Int.not_lt]
  have habsent : ∀ name, absenceCheck name claims ≠ .error f := by
    intro name h
    cases h
  have htext : ∀ name, textCheck name claims ≠ .error f := by
    intro name h
    cases h
  simp only [runChecks_eq_error_iff, claimChecks, reaches_cons, not_reaches_nil, hissued, hbegins,
    timeCheck_eq_error_iff, habsent, htext, and_false, or_false]
  constructor
  · rintro (⟨v, htime, hv⟩ | ⟨hissued, ⟨v, htime, hv⟩ | ⟨hbegins, v, htime, hv⟩⟩)
    · exact .issued htime hv
    · exact .begins hissued htime hv
    · exact .ends hissued hbegins htime hv
  · intro h
    cases h with
    | issued htime hv => exact Or.inl ⟨_, htime, hv⟩
    | begins hissued htime hv => exact Or.inr ⟨hissued, Or.inl ⟨_, htime, hv⟩⟩
    | ends hissued hbegins htime hv => exact Or.inr ⟨hissued, Or.inr ⟨hbegins, _, htime, hv⟩⟩

/-! ## Secrets that are no keys -/

section Keys

variable {signed given : List UInt8} {keys : List Datum} {why : KeyFault}

theorem signedByAny_eq_error_iff :
    signedByAny a.name signed given keys = .error why ↔
      Reaches (fun other => ∃ bytes, keyBytes other = .ok bytes ∧ signature a bytes signed ≠ given)
        (fun candidate => keyBytes candidate = .error why) keys := by
  induction keys with
  | nil => simp [signedByAny, not_reaches_nil]
  | cons candidate keys ih =>
      rw [signedByAny_cons, reaches_cons, ← ih]
      cases keyBytes candidate with
      | error other => simp
      | ok key => by_cases hgives : signature a key signed = given <;> simp [hgives]

/-- Whether a secret is no good for a signature: nothing can be made of it, or something
that is no key comes before one that gives the signature. -/
inductive Stumbles (depths : Depths) (a : Algorithm) (secret : Datum)
    (signed given : List UInt8) (why : KeyFault) : Prop
  | secret (h : candidates depths.secret secret = .error why)
  | key {keys : List Datum} (hkeys : candidates depths.secret secret = .ok keys)
      (h : Reaches
        (fun other => ∃ bytes, keyBytes other = .ok bytes ∧ signature a bytes signed ≠ given)
        (fun candidate => keyBytes candidate = .error why) keys)

theorem signedBySecret_eq_error_iff :
    signedBySecret depths a secret signed given = .error why ↔
      Stumbles depths a secret signed given why := by
  rw [signedBySecret]
  cases hkeys : candidates depths.secret secret with
  | error other =>
      constructor
      · intro h
        injection h with h
        exact .secret (h ▸ hkeys)
      · rintro (hother | ⟨hother, -⟩)
        · rw [hkeys] at hother
          injection hother with hother
          rw [hother]
          rfl
        · rw [hkeys] at hother
          cases hother
  | ok keys =>
      show signedByAny a.name signed given keys = .error why ↔ _
      rw [signedByAny_eq_error_iff]
      constructor
      · exact fun h => .key hkeys h
      · rintro (hother | ⟨hother, h⟩)
        · rw [hkeys] at hother
          cases hother
        · rw [hkeys] at hother
          injection hother with hother
          rwa [hother]

end Keys

/-! ## All the ways -/

/-- Whether judging what is shown as a token breaks off with a fault. -/
inductive Breaks (depths : Depths) (a : Algorithm) (secret : Datum) (second : Int) :
    Datum → VerifyFault → Prop
  | noBytes (points : List Nat) :
      Breaks depths a secret second (.unpaired points) (.notCharacters points)
  -- the rest of the token may be anything
  | header {token : String} {header : List UInt8} {why : Json.Misread}
      (hheader : header? token = some header)
      (hdeep : objectOf depths.header header = .error why) :
      Breaks depths a secret second (.str token) (.tooDeep why)
  | key {token : String} {p : Parts} {why : KeyFault} (hpresents : Presents depths a token p)
      (hstumbles : Stumbles depths a secret p.signed p.signature why) :
      Breaks depths a secret second (.str token) (.badKey why)
  | payload {token : String} {p : Parts} {why : Json.Misread}
      (hpresents : Presents depths a token p)
      (hsigned : Recognizes depths a secret p.signed p.signature)
      (hdeep : objectOf depths.payload p.payload = .error why) :
      Breaks depths a secret second (.str token) (.tooDeep why)
  | time {token : String} {p : Parts} {claims : List (String × Json)} {f : VerifyFault}
      (hpresents : Presents depths a token p)
      (hsigned : Recognizes depths a secret p.signed p.signature)
      (hclaims : objectOf depths.payload p.payload = .ok (some claims))
      (hspoils : Spoils claims second f) : Breaks depths a secret second (.str token) f

theorem verify_eq_error_iff {token : String} :
    verify ⟨secret, a.name, lifetime, depths⟩ now token = .error f ↔
      Breaks depths a secret (secondOf now) (.str token) f := by
  constructor
  · intro h
    by_cases hpresents : ∃ p, Presents depths a token p
    · obtain ⟨p, hp⟩ := hpresents
      rw [verify_of_presents hp] at h
      cases hsigned : signedBySecret depths a secret p.signed p.signature with
      | error why =>
          rw [hsigned] at h
          injection h with h
          exact h ▸ .key hp (signedBySecret_eq_error_iff.mp hsigned)
      | ok found =>
          rw [hsigned] at h
          cases found with
          | false => cases h
          | true =>
              have hgood := signedBySecret_eq_true_iff.mp hsigned
              change judge depths.payload (secondOf now) p.payload = .error f at h
              rw [judge] at h
              cases hobject : objectOf depths.payload p.payload with
              | error why =>
                  rw [hobject] at h
                  injection h with h
                  exact h ▸ .payload hp hgood hobject
              | ok members =>
                  rw [hobject] at h
                  cases members with
                  | none => cases h
                  | some claims =>
                      exact .time hp hgood hobject (runChecks_claimChecks_eq_error_iff.mp h)
    · rcases verify_of_not_presents (not_exists.mp hpresents) h with
        h | ⟨header, why, hheader, hdeep, h⟩
      · cases h
      · injection h with h
        exact h ▸ .header hheader hdeep
  · intro h
    cases h with
    | header hheader hdeep =>
        rw [verify, hheader]
        simp only [hdeep]
    | key hpresents hstumbles =>
        rw [verify_of_presents hpresents, signedBySecret_eq_error_iff.mpr hstumbles]
    | payload hpresents hsigned hdeep =>
        rw [verify_of_presents hpresents, signedBySecret_eq_true_iff.mpr hsigned]
        simp only [judge, hdeep]
    | time hpresents hsigned hclaims hspoils =>
        rw [verify_of_presents hpresents, signedBySecret_eq_true_iff.mpr hsigned]
        simp only [judge, hclaims]
        exact runChecks_claimChecks_eq_error_iff.mpr hspoils

/-- A verifier gives a verdict on everything but what makes it break off in one of these
ways. -/
theorem verifyDatum_eq_error_iff :
    verifyDatum ⟨secret, a.name, lifetime, depths⟩ now shown = .error f ↔
      Breaks depths a secret (secondOf now) shown f := by
  cases shown with
  | str token => exact verify_eq_error_iff
  | unpaired points =>
      constructor
      · intro h
        injection h with h
        exact h ▸ .noBytes points
      · intro h
        cases h
        rfl
  | _ =>
      constructor
      · intro h
        cases h
      · intro h
        cases h

/-! A token whose end is nothing, under a secret that settings accept. -/

def strongSecret : String := "0123456789abcdef0123456789abcdef"

def endlessClaims : List (String × Json) :=
  [("sub", .str "u1"), ("role", .str "admin"), ("exp", .null)]

theorem restorable_endlessClaims : Json.Restorable 1 (.obj endlessClaims) := by
  have hnames : ["sub", "role", "exp"].Nodup := by decide
  refine .obj hnames fun m hm => ?_
  simp only [endlessClaims, List.mem_cons, List.not_mem_nil, or_false] at hm
  rcases hm with rfl | rfl | rfl
  · exact .str _
  · exact .str _
  · exact .null

theorem null_end_unanswered :
    ∃ l, Settings.load "" ⟨[("secret_key", .str strongSecret)], [], [], {}, 0⟩ = .ok l ∧
      ∃ token,
        verifyDatum (Application.tokenConfig flat l.settings) 1700000000000000 (.str token) =
          .error (.notANumber "NoneType") := by
  refine ⟨⟨{ secretKey := strongSecret }, false, []⟩, rfl, ?_⟩
  have hopened : verify ⟨.str strongSecret, "HS256", .int 3600, flat⟩ 1700000000000000
      (tokenOf .hs256 (Text.Utf8.bytes strongSecret) (.obj endlessClaims)) =
        runChecks endlessClaims (claimChecks (secondOf 1700000000000000)) :=
    verify_tokenOf (a := .hs256) (by rfl) (by decide) restorable_endlessClaims 1700000000000000
  refine ⟨tokenOf .hs256 (Text.Utf8.bytes strongSecret) (.obj endlessClaims), ?_⟩
  rw [verifyDatum]
  refine hopened.trans (runChecks_claimChecks_eq_error_iff.mpr (.ends ?_ ?_ rfl .null))
  · rintro v ⟨⟩
  · rintro v ⟨⟩

end Gatehouse.Token
