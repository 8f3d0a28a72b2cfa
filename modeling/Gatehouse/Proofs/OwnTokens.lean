import Gatehouse.Proofs.Authenticity
import Gatehouse.Settings.Load

/-!
# Whether a verifier takes the tokens that it issued

A secret goes two ways. A token is signed with the text of the secret as it stands; when a
token is checked, the text is read as JSON first, and the keys are what that stands for. If
it is no JSON, or a number, the text is its own key and the two ways meet. If it is any other
JSON, they meet only if one of those keys happens to give the same signature.

Nothing else can part them: what is issued has parts, names the algorithm and holds claims
that pass every check in the second in which it is issued, since a lifetime above zero does
not end before it begins.
-/

namespace Gatehouse

/-! ## Lifetimes -/

namespace Binary64

theorem scaled?_pack (m : Nat) (e : Int) (scale : Nat) :
    0 ≤ ((pack false m e).scaled? scale).getD 0 := by
  rw [pack]
  split
  · exact Int.natCast_nonneg _
  · exact Int.le_refl 0

/-- What is rounded without a sign is not below zero. -/
theorem scaled?_ofRatio (num den scale : Nat) :
    0 ≤ ((ofRatio false num den).scaled? scale).getD 0 := by
  rw [ofRatio, roundReduced]
  by_cases hnum : num / Nat.gcd num den = 0
  · rw [if_pos hnum]
    exact Int.natCast_nonneg _
  · rw [if_neg hnum]
    dsimp only
    split
    · exact scaled?_pack _ _ scale
    · exact scaled?_pack _ _ scale

end Binary64

namespace Token

open Dotted (dot segment asciiText)

variable {a : Algorithm} {secret token : String} {given usual lifetime : Datum}
  {depths : Depths} {subject role : Json} {now duration ends : Int}

theorem microseconds_nonneg (hpositive : isPositive lifetime = .ok true)
    (h : microseconds lifetime = .ok duration) : 0 ≤ duration := by
  have hsecond : (perSecond : Int) = 1000000 := rfl
  cases lifetime with
  | bool b =>
      injection h with h
      injection hpositive with hb
      rw [← h, hb, if_pos rfl, hsecond]
      decide
  | int n =>
      injection h with h
      injection hpositive with hn
      rw [← h, hsecond]
      have hn := of_decide_eq_true hn
      omega
  | float x =>
      cases x with
      | nan => cases h
      | infinite negative => cases h
      | finite negative m e hcanonical =>
          injection h with h
          injection hpositive with hsign
          have hsign : negative = false := by
            cases negative with
            | false => rfl
            | true => cases hsign
          rw [← h, hsign, floatMicroseconds]
          have hrest := Binary64.scaled?_ofRatio
            ((Binary64.ratio m e).1 % (Binary64.ratio m e).2 * perSecond) (Binary64.ratio m e).2 1
          simp only [Bool.false_eq_true, ↓reduceIte]
          exact Int.add_nonneg (Int.mul_nonneg (Int.natCast_nonneg _) (Int.natCast_nonneg _)) hrest
  | _ => cases h

/-- Whether a token lasts: the lifetime that is asked for is above zero, or else the usual
one. -/
def Lasts (given usual : Datum) : Prop :=
  isPositive given = .ok true ∨ (isPositive given = .ok false ∧ isPositive usual = .ok true)

theorem onCalendar_of_endSecond (h : endSecond now duration = .ok ends) :
    ends = secondOf (now + duration) ∧ OnCalendar (now + duration) := by
  rw [endSecond] at h
  dsimp only at h
  by_cases hlong : Int.fdiv duration perDay < -2147483648 ∨ 2147483647 < Int.fdiv duration perDay
  · rw [if_pos hlong] at h
    cases h
  rw [if_neg hlong] at h
  by_cases hdays : Int.fdiv duration perDay < -999999999 ∨ 999999999 < Int.fdiv duration perDay
  · rw [if_pos hdays] at h
    cases h
  rw [if_neg hdays] at h
  by_cases hout : Int.fdiv (now + duration) perSecond < firstSecond ∨
      lastSecond < Int.fdiv (now + duration) perSecond
  · rw [if_pos hout] at h
    cases h
  rw [if_neg hout] at h
  injection h with h
  refine ⟨h.symm, ?_⟩
  rw [OnCalendar, secondOf]
  omega

/-! ## What is issued -/

/-- A token is issued if its end can be told and its secret is no public key. -/
theorem issue_eq_ok_iff (hsubject : Json.IsTextValue subject) (hrole : Json.IsTextValue role) :
    issue ⟨.str secret, a.name, usual, depths⟩ now (.ofJson subject) (.ofJson role) given =
        .ok token ↔
      ∃ positive duration ends, isPositive given = .ok positive ∧
        microseconds (if positive then given else usual) = .ok duration ∧
        endSecond now duration = .ok ends ∧ isAsymmetric (Text.Utf8.bytes secret) = false ∧
        token = tokenOf a (Text.Utf8.bytes secret) (payloadJson subject role ends) := by
  have hsign : ∀ payload, isAsymmetric (Text.Utf8.bytes secret) = true →
      ∃ f, sign ⟨.str secret, a.name, usual, depths⟩ payload = .error f := by
    intro payload hkey
    refine ⟨.badKey .asymmetric, ?_⟩
    rw [sign, if_pos (isOffered_name a), makeKey_name, keyBytes, plainKey, if_pos hkey]
    rfl
  have hfor : ∀ {duration ends}, endSecond now duration = .ok ends →
      issueFor ⟨.str secret, a.name, usual, depths⟩ now duration (.ofJson subject) (.ofJson role) =
        sign ⟨.str secret, a.name, usual, depths⟩ (payloadJson subject role ends) := by
    intro duration ends hends
    rw [issueFor, hends]
    simp only [bind, Except.bind, isOffered_name, ↓reduceIte, Except.mapError,
      Value.toJson_ofJson hsubject.isWritable, Value.toJson_ofJson hrole.isWritable]
  rw [issue]
  constructor
  · intro h
    obtain ⟨positive, hpositive, h⟩ := exists_of_bind_eq_ok h
    obtain ⟨duration, hduration, h⟩ := exists_of_bind_eq_ok h
    obtain ⟨ends, hends, -⟩ := exists_of_bind_eq_ok h
    rw [hfor hends] at h
    cases hkey : isAsymmetric (Text.Utf8.bytes secret) with
    | true =>
        obtain ⟨f, hf⟩ := hsign (payloadJson subject role ends) hkey
        rw [hf] at h
        cases h
    | false =>
        rw [sign_eq hkey] at h
        injection h with h
        exact ⟨positive, duration, ends, hpositive, hduration, hends, rfl, h.symm⟩
  · rintro ⟨positive, duration, ends, hpositive, hduration, hends, hkey, rfl⟩
    rw [hpositive]
    show (microseconds (if positive then given else usual) >>= fun duration =>
      issueFor _ now duration _ _) = _
    rw [hduration]
    exact (hfor hends).trans (sign_eq hkey _)

theorem presents_tokenOf (key : List UInt8) (payload : Json) :
    Presents depths a (tokenOf a key payload)
      ⟨jsonBytes (headerJson a.name), jsonBytes payload,
        signature a key (signedPart a.name payload), signedPart a.name payload⟩ := by
  have hnames : ["alg", "typ"].Nodup := by decide
  have hheader : Json.Restorable (depths.header + 1) (headerJson a.name) := by
    refine .obj hnames fun m hm => ?_
    simp only [List.mem_cons, List.not_mem_nil, or_false] at hm
    rcases hm with rfl | rfl
    · exact .str _
    · exact .str _
  exact ⟨parts?_asciiText _ _ _, _, objectOf_jsonBytes hheader, rfl⟩

/-! ## What is taken -/

/-- A secret that is no JSON, or JSON that says the same, is its own key. -/
theorem recognizes_own {signed : List UInt8} (hkey : isAsymmetric (Text.Utf8.bytes secret) = false)
    (hplain : secretJson? depths.secret (.str secret) = none ∨
      secretJson? depths.secret (.str secret) = some (.str secret)) :
    Recognizes depths a (.str secret) signed (signature a (Text.Utf8.bytes secret) signed) := by
  have hkeys : candidates depths.secret (.str secret) = .ok [.str secret] := by
    rcases hplain with hplain | hplain
    · exact candidates_str hplain
    · rw [candidates, hplain]
      rfl
  have hbytes : keyBytes (.str secret) = .ok (Text.Utf8.bytes secret) := by
    rw [keyBytes, plainKey, hkey]
    rfl
  exact ⟨_, hkeys, reaches_cons.mpr (Or.inl ⟨_, hbytes, rfl⟩)⟩

/-- In the second in which it was issued a token has not ended. -/
theorem judge_issued (hsubject : Json.IsTextValue subject) (hrole : Json.IsTextValue role)
    (hduration : 0 ≤ duration) (hends : endSecond now duration = .ok ends) :
    judge depths.payload (secondOf now) (jsonBytes (payloadJson subject role ends)) =
      .ok (.accepted ⟨subject, role⟩) := by
  obtain ⟨rfl, hcalendar⟩ := onCalendar_of_endSecond hends
  have hnames : ["sub", "role", "exp"].Nodup := by decide
  have hclaims : Json.Restorable (depths.payload + 1)
      (payloadJson subject role (secondOf (now + duration))) := by
    refine .obj hnames fun m hm => ?_
    simp only [List.mem_cons, List.not_mem_nil, or_false] at hm
    rcases hm with rfl | rfl | rfl
    · exact hsubject.restorable _
    · exact hrole.restorable _
    · exact .int (isShort_of_onCalendar hcalendar)
  have hlater : secondOf now ≤ secondOf (now + duration) := by
    have hsecond : (perSecond : Int) = 1000000 := rfl
    rw [secondOf, secondOf, hsecond, Int.fdiv_eq_ediv_of_nonneg _ (by decide),
      Int.fdiv_eq_ediv_of_nonneg _ (by decide)]
    omega
  rw [payloadJson] at hclaims ⊢
  rw [judge, objectOf_jsonBytes hclaims]
  show runChecks _ _ = _
  rw [runChecks_issued hsubject hrole, if_pos hlater]

/-- If a secret stands for one key, what is signed with any other is taken for invalid. -/
theorem verify_of_other_key {header payload signed given key : List UInt8}
    {secret candidate : Datum}
    (hpresents : Presents depths a token ⟨header, payload, given, signed⟩)
    (hkeys : candidates depths.secret secret = .ok [candidate])
    (hkey : keyBytes candidate = .ok key)
    (hother : signature a key signed ≠ given) :
    verify ⟨secret, a.name, usual, depths⟩ now token = .ok .invalid := by
  have hsigned : signedBySecret depths a secret signed given = .ok false := by
    rw [signedBySecret, hkeys]
    show signedByAny a.name signed given [candidate] = _
    rw [signedByAny_cons, hkey]
    exact if_neg hother
  rw [verify_of_presents hpresents, hsigned]

/-- A verifier takes a token that it has just issued exactly if its secret, read as JSON,
stands for a key that gives the signature; and so it does if the secret is no JSON or says the
same as JSON. -/
theorem own_token_accepted_iff (hsubject : Json.IsTextValue subject)
    (hrole : Json.IsTextValue role) (hlasts : Lasts given usual)
    (hissue : issue ⟨.str secret, a.name, usual, depths⟩ now (.ofJson subject) (.ofJson role) given =
      .ok token) :
    ∃ signed, token =
        asciiText (signed ++ dot :: segment (signature a (Text.Utf8.bytes secret) signed)) ∧
      (verify ⟨.str secret, a.name, usual, depths⟩ now token = .ok (.accepted ⟨subject, role⟩) ↔
        Recognizes depths a (.str secret) signed (signature a (Text.Utf8.bytes secret) signed)) ∧
      (secretJson? depths.secret (.str secret) = none ∨
          secretJson? depths.secret (.str secret) = some (.str secret) →
        verify ⟨.str secret, a.name, usual, depths⟩ now token = .ok (.accepted ⟨subject, role⟩)) := by
  obtain ⟨positive, duration, ends, hpositive, hmicro, hends, hkey, rfl⟩ :=
    (issue_eq_ok_iff hsubject hrole).mp hissue
  have hduration : 0 ≤ duration := by
    rcases hlasts with hgiven | ⟨hgiven, husual⟩
    · obtain rfl : positive = true := Except.ok.inj (hpositive.symm.trans hgiven)
      exact microseconds_nonneg hgiven hmicro
    · obtain rfl : positive = false := Except.ok.inj (hpositive.symm.trans hgiven)
      exact microseconds_nonneg husual hmicro
  have hiff : verify ⟨.str secret, a.name, usual, depths⟩ now
      (tokenOf a (Text.Utf8.bytes secret) (payloadJson subject role ends)) =
        .ok (.accepted ⟨subject, role⟩) ↔
      Recognizes depths a (.str secret) (signedPart a.name (payloadJson subject role ends))
        (signature a (Text.Utf8.bytes secret)
          (signedPart a.name (payloadJson subject role ends))) := by
    rw [verify_of_presents (presents_tokenOf _ _), ← signedBySecret_eq_true_iff]
    dsimp only
    cases signedBySecret depths a (.str secret) _ _ with
    | error why => simp
    | ok found =>
        cases found with
        | false => simp
        | true => simp [judge_issued hsubject hrole hduration hends]
  exact ⟨_, rfl, hiff, fun hplain => hiff.mpr (recognizes_own hkey hplain)⟩

/-- A secret that is JSON for a number. -/
def numberSecret : String := "31415926535897932384626433832795"

theorem number_secret_accepts :
    ∃ token,
      issue ⟨.str numberSecret, "HS256", .int 3600, flat⟩ 1700000000000000 (.ofJson (.str "u1"))
          (.ofJson (.str "admin")) (.int 0) = .ok token ∧
        verify ⟨.str numberSecret, "HS256", .int 3600, flat⟩ 1700000000000000 token =
          .ok (.accepted ⟨.str "u1", .str "admin"⟩) := by
  have hissue : issue ⟨.str numberSecret, "HS256", .int 3600, flat⟩ 1700000000000000
      (.ofJson (.str "u1")) (.ofJson (.str "admin")) (.int 0) =
        .ok (tokenOf .hs256 (Text.Utf8.bytes numberSecret)
          (payloadJson (.str "u1") (.str "admin") 1700003600)) :=
    (issue_eq_ok_iff (a := .hs256) (.str "u1") (.str "admin")).mpr
      ⟨false, 3600000000, 1700003600, by rfl, by rfl, by rfl, by decide, rfl⟩
  have hjson : secretJson? flat.secret (.str numberSecret) = some (.str numberSecret) := by rfl
  have hlasts : Lasts (.int 0) (.int 3600) := Or.inr ⟨rfl, rfl⟩
  obtain ⟨signed, -, -, hplain⟩ := own_token_accepted_iff (a := .hs256) (.str "u1") (.str "admin")
    hlasts hissue
  exact ⟨_, hissue, hplain (Or.inr hjson)⟩

/-! A secret in quotes is signed with as it stands, and checked with as what it quotes. -/

def quoted (s : String) : String := String.ofList (Json.quote true s)

theorem candidates_quoted (depth : Nat) (s : String) :
    candidates depth (.str (quoted s)) = .ok [.str s] := by
  have htext : Json.IsText (s.toList.map Char.toNat) :=
    Json.isText_of_valid fun n => Json.valid_of_mem_points
  have hread : Json.read .asText (depth + 1) (Json.quote true s) = .ok (.str s) := by
    rw [← List.append_nil (Json.quote true s), Json.quote_append, Json.read,
      Json.skipSpace_cons (by decide), Json.value_text htext, Json.ofPoints_toNat]
    rfl
  have hjson : secretJson? depth (.str (quoted s)) = some (.str s) := by
    rw [secretJson?, quoted, String.toList_ofList, hread]
    rfl
  rw [candidates, hjson]
  rfl

def phrase : String := "0123456789abcdef0123456789abcdef"

theorem quoted_secret_refuses :
    ∃ l, Settings.load "" ⟨[("secret_key", .str (quoted phrase))], [], [], {}, 0⟩ = .ok l ∧
      ∃ token,
        issue (Application.tokenConfig flat l.settings) 1700000000000000 (.ofJson (.str "u1"))
            (.ofJson (.str "admin")) (.int 0) = .ok token ∧
          verify (Application.tokenConfig flat l.settings) 1700000000000000 token = .ok .invalid := by
  refine ⟨⟨{ secretKey := quoted phrase }, false, []⟩, by rfl, ?_⟩
  have hissue : issue ⟨.str (quoted phrase), "HS256", .int 3600, flat⟩ 1700000000000000
      (.ofJson (.str "u1")) (.ofJson (.str "admin")) (.int 0) =
        .ok (tokenOf .hs256 (Text.Utf8.bytes (quoted phrase))
          (payloadJson (.str "u1") (.str "admin") 1700003600)) :=
    (issue_eq_ok_iff (a := .hs256) (.str "u1") (.str "admin")).mpr
      ⟨false, 3600000000, 1700003600, by rfl, by rfl, by rfl, by decide, rfl⟩
  have hbytes : keyBytes (.str phrase) = .ok (Text.Utf8.bytes phrase) := by
    rw [keyBytes, plainKey, if_neg (by decide)]
  have hpresents : Presents flat .hs256 _ _ := presents_tokenOf (Text.Utf8.bytes (quoted phrase))
    (payloadJson (.str "u1") (.str "admin") 1700003600)
  have hother : signature .hs256 (Text.Utf8.bytes phrase)
      (signedPart "HS256" (payloadJson (.str "u1") (.str "admin") 1700003600)) ≠
        signature .hs256 (Text.Utf8.bytes (quoted phrase))
          (signedPart "HS256" (payloadJson (.str "u1") (.str "admin") 1700003600)) := by
    decide +kernel
  have hverify : verify ⟨.str (quoted phrase), "HS256", .int 3600, flat⟩ 1700000000000000
      (tokenOf .hs256 (Text.Utf8.bytes (quoted phrase))
        (payloadJson (.str "u1") (.str "admin") 1700003600)) = .ok .invalid :=
    verify_of_other_key (a := .hs256) hpresents (candidates_quoted _ phrase) hbytes hother
  exact ⟨_, hissue, hverify⟩

end Token

end Gatehouse
