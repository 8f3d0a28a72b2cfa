import Gatehouse.Proofs.TokenLife
import Gatehouse.Proofs.Unanswered

/-!
# Which tokens come to an end

A token is issued with an end, but whoever knows the secret can sign one without. A verifier
asks for a subject and for a role, and does not ask for an end: it only heeds the end that is
there. So the tokens that expire some day are those whose claims name an end, and one without
is good for ever.

Nobody is accepted who has not passed all checks, and all of them but that of the end are
passed at any later time as well. So what becomes of an accepted token is told by `endOf?`
alone: `runChecks_of_accepted`.
-/

namespace Gatehouse.Token

variable {claims : List (String × Json)} {second later : Int} {i : Identity}

/-- The last second of the claims, if they name one that can be read. -/
def endOf? (claims : List (String × Json)) : Option Int :=
  (claims.lookup "exp").bind fun v => (wholeSeconds v).toOption.join

theorem endOf?_eq_some {v : Json} {n : Int} (h : claims.lookup "exp" = some v)
    (hn : wholeSeconds v = .ok (some n)) : endOf? claims = some n := by
  rw [endOf?, h, Option.bind_some, hn]
  rfl

/-- From then on whoever is accepted is accepted until the end. -/
theorem runChecks_of_accepted (hle : second ≤ later)
    (h : runChecks claims (claimChecks second) = .ok (.accepted i)) :
    runChecks claims (claimChecks later) =
      .ok (if (endOf? claims).any (· < later) then .expired else .accepted i) := by
  obtain ⟨hopen, hbearer⟩ := open_of_accepted h
  simp only [claimChecks, List.forall_mem_cons] at hopen
  obtain ⟨hissued, hbegins, hends, haudience, hsubject, hname, hhash, -⟩ := hopen
  have hbegun : timeCheck "nbf" (fun n => if later < n then some .invalid else none) claims =
      .ok none := by
    refine timeCheck_eq_none_iff.mpr fun v hv => ?_
    obtain ⟨n, hn, hnow⟩ := timeCheck_eq_none_iff.mp hbegins v hv
    rw [ite_eq_right_iff] at hnow
    refine ⟨n, hn, if_neg fun hearly => ?_⟩
    cases hnow (by omega)
  have hend : timeCheck "exp" (fun n => if n < later then some .expired else none) claims =
      .ok (if (endOf? claims).any (· < later) then some .expired else none) := by
    cases hv : claims.lookup "exp" with
    | none => rw [timeCheck, endOf?, hv]; rfl
    | some v =>
        obtain ⟨n, hn, -⟩ := timeCheck_eq_none_iff.mp hends v hv
        rw [timeCheck, endOf?_eq_some hv hn, hv]
        simp only [hn, Option.any_some, decide_eq_true_eq]
  simp only [claimChecks, runChecks, hissued, hbegun, hend, haudience, hsubject, hname, hhash,
    hbearer]
  cases (endOf? claims).any (· < later) <;> rfl

theorem endOf?_of_accepted (h : runChecks claims (claimChecks second) = .ok (.accepted i))
    {v : Json} (hv : claims.lookup "exp" = some v) :
    ∃ n, wholeSeconds v = .ok (some n) ∧ second ≤ n ∧ endOf? claims = some n := by
  obtain ⟨n, hn, hle⟩ := (vouches_of_runChecks h).lasts v hv
  exact ⟨n, hn, hle, endOf?_eq_some hv hn⟩

/-! ## What is shown as a token -/

/-- Whether what is shown as a token has a payload that holds these claims. -/
def Carries (depth : Nat) (shown : Datum) (claims : List (String × Json)) : Prop :=
  ∃ token p, shown = .str token ∧ parts? token = some p ∧
    objectOf depth p.payload = .ok (some claims)

/-- A token that is accepted at some time has claims to be judged by at any time. -/
theorem carries_of_accepted {c : Config} {shown : Datum} {now : Int}
    (h : verifyDatum c now shown = .ok (.accepted i)) :
    ∃ claims, Carries c.depths.payload shown claims ∧
      ∀ later, verifyDatum c later shown = runChecks claims (claimChecks (secondOf later)) := by
  cases shown with
  | str token =>
      rcases verify_cases c token with ⟨r, hr, hnobody⟩ | ⟨p, hparts, hjudge⟩
      · exact absurd ((hr now).symm.trans h) (hnobody i)
      · have hnow := (hjudge now).symm.trans h
        cases hobject : objectOf c.depths.payload p.payload with
        | error why =>
            rw [judge, hobject] at hnow
            cases hnow
        | ok found =>
            cases found with
            | none =>
                rw [judge, hobject] at hnow
                cases hnow
            | some claims =>
                refine ⟨claims, ⟨token, p, rfl, hparts, hobject⟩, fun later => ?_⟩
                rw [verifyDatum, hjudge, judge, hobject]
  | _ => cases h

theorem secondOf_whole (n : Int) : secondOf (n * perSecond) = n := by
  rw [secondOf, Int.fdiv_eq_ediv_of_nonneg _ (Int.natCast_nonneg _)]
  exact Int.mul_ediv_cancel n (by decide)

theorem lt_of_secondOf_lt {now n : Int} (h : secondOf now < n) : now < n * perSecond := by
  rw [secondOf, Int.fdiv_eq_ediv_of_nonneg _ (Int.natCast_nonneg _)] at h
  exact (Int.ediv_lt_iff_lt_mul (by decide)).mp h

theorem exists_later_second {now n : Int} (h : secondOf now ≤ n) :
    ∃ later, now ≤ later ∧ n < secondOf later := by
  have hle := lt_of_secondOf_lt (Int.lt_add_one_of_le h)
  refine ⟨(n + 1) * perSecond, hle.le, ?_⟩
  rw [secondOf_whole]
  exact Int.lt_succ n

/-- The calendar has a time behind a second if that is not its last one. -/
theorem exists_later_on_calendar_iff {now n : Int} (h : secondOf now ≤ n) :
    (∃ later, now ≤ later ∧ OnCalendar later ∧ n < secondOf later) ↔ n < lastSecond := by
  constructor
  · rintro ⟨later, -, ⟨-, hlast⟩, hover⟩
    omega
  · intro hn
    have hsecond : secondOf (lastSecond * perSecond) = lastSecond := secondOf_whole _
    have hle := lt_of_secondOf_lt (Int.lt_of_le_of_lt h hn)
    refine ⟨lastSecond * perSecond, hle.le, ⟨?_, hsecond.le⟩, by rwa [hsecond]⟩
    rw [hsecond]
    decide

/-- A token that is accepted is accepted until the last second that its claims name is over,
and has expired from then on; without an end it is accepted for good. So it expires some day
just if its claims name an end, and on a day of the calendar just if that is before the last
second there is. -/
theorem expires_iff_ends (c : Config) (shown : Datum) (now : Int) (i : Identity)
    (h : verifyDatum c now shown = .ok (.accepted i)) :
    ∃ claims, Carries c.depths.payload shown claims ∧
      (claims.lookup "exp" = none → ∀ later, now ≤ later →
        verifyDatum c later shown = .ok (.accepted i)) ∧
      (∀ v, claims.lookup "exp" = some v → ∃ n, wholeSeconds v = .ok (some n) ∧
        ∀ later, now ≤ later → verifyDatum c later shown =
          .ok (if n < secondOf later then .expired else .accepted i)) ∧
      ((∃ later, now ≤ later ∧ verifyDatum c later shown = .ok .expired) ↔
        ∃ v, claims.lookup "exp" = some v) ∧
      ((∃ later, now ≤ later ∧ OnCalendar later ∧ verifyDatum c later shown = .ok .expired) ↔
        ∃ v n, claims.lookup "exp" = some v ∧ wholeSeconds v = .ok (some n) ∧ n < lastSecond) := by
  obtain ⟨claims, hcarries, hverify⟩ := carries_of_accepted h
  have hchecks := (hverify now).symm.trans h
  have hlater : ∀ later, now ≤ later → verifyDatum c later shown =
      .ok (if (endOf? claims).any (· < secondOf later) then .expired else .accepted i) :=
    fun later hle => (hverify later).trans (runChecks_of_accepted (secondOf_le hle) hchecks)
  have hexpired : ∀ later, now ≤ later → (verifyDatum c later shown = .ok .expired ↔
      (endOf? claims).any (· < secondOf later) = true) := by
    intro later hle
    rw [hlater later hle, Except.ok.injEq, ite_eq_left_iff]
    simp
  refine ⟨claims, hcarries, ?_⟩
  cases hend : claims.lookup "exp" with
  | none =>
      have hnone : endOf? claims = none := by rw [endOf?, hend, Option.bind_none]
      simp only [hnone, Option.any_none, Bool.false_eq_true, ↓reduceIte] at hlater hexpired
      refine ⟨fun _ => hlater, nofun, ⟨?_, nofun⟩, ⟨?_, nofun⟩⟩
      · rintro ⟨later, hle, hover⟩
        exact absurd hover (hexpired later hle).mp
      · rintro ⟨later, hle, -, hover⟩
        exact absurd hover (hexpired later hle).mp
  | some v =>
      obtain ⟨n, hn, hnow, hends⟩ := endOf?_of_accepted hchecks hend
      simp only [hends, Option.any_some, decide_eq_true_eq] at hlater hexpired
      obtain ⟨later, hle, hover⟩ := exists_later_second hnow
      refine ⟨nofun, ?_, iff_of_true ⟨later, hle, (hexpired later hle).mpr hover⟩ ⟨v, rfl⟩, ?_⟩
      · rintro _ ⟨⟩
        exact ⟨n, hn, hlater⟩
      · have hcalendar : (∃ v' n', some v = some v' ∧ wholeSeconds v' = .ok (some n') ∧
            n' < lastSecond) ↔ n < lastSecond := by
          constructor
          · rintro ⟨_, n', ⟨⟩, hn', hlast⟩
            obtain rfl := Option.some.inj (Except.ok.inj (hn.symm.trans hn'))
            exact hlast
          · exact fun hlast => ⟨v, n, rfl, hn, hlast⟩
        rw [hcalendar, ← exists_later_on_calendar_iff hnow]
        exact exists_congr fun later => and_congr_right fun hle =>
          and_congr_right fun _ => hexpired later hle

/-! The token of a guest, which ends, and one whose claims name no end, under a secret that
settings accept. -/

theorem guest_ends :
    verifyDatum hostConfig 1700000060999999 guestToken =
        .ok (.accepted ⟨.str "ann", .str "guest"⟩) ∧
      verifyDatum hostConfig 1700000061000000 guestToken = .ok .expired ∧
      ∃ claims, Carries 0 guestToken claims ∧ ∃ v n, claims.lookup "exp" = some v ∧
        wholeSeconds v = .ok (some n) ∧ n < lastSecond := by
  have haccepted : verifyDatum hostConfig 1700000060999999 guestToken =
      .ok (.accepted ⟨.str "ann", .str "guest"⟩) := by
    rw [verifyDatum_guestToken]
    rfl
  have hexpired : verifyDatum hostConfig 1700000061000000 guestToken = .ok .expired := by
    rw [verifyDatum_guestToken]
    rfl
  obtain ⟨claims, hcarries, -, -, -, hcalendar⟩ := expires_iff_ends _ _ _ _ haccepted
  exact ⟨haccepted, hexpired, claims, hcarries,
    hcalendar.mp ⟨1700000061000000, by decide, ⟨by decide, by decide⟩, hexpired⟩⟩

def memberClaims : List (String × Json) := [("sub", .str "u1"), ("role", .str "admin")]

theorem restorable_memberClaims : Json.Restorable 1 (.obj memberClaims) := by
  have hnames : ["sub", "role"].Nodup := by decide
  refine .obj hnames fun m hm => ?_
  simp only [memberClaims, List.mem_cons, List.not_mem_nil, or_false] at hm
  rcases hm with rfl | rfl
  · exact .str _
  · exact .str _

/-- A token that is accepted at any time. -/
theorem endless_accepted :
    ∃ l, Settings.load "" ⟨[("secret_key", .str strongSecret)], [], [], {}, 0⟩ = .ok l ∧
      ∃ token, ∀ now, verifyDatum (Application.tokenConfig flat l.settings) now (.str token) =
        .ok (.accepted ⟨.str "u1", .str "admin"⟩) := by
  refine ⟨⟨{ secretKey := strongSecret }, false, []⟩, rfl,
    tokenOf .hs256 (Text.Utf8.bytes strongSecret) (.obj memberClaims), fun now => ?_⟩
  have hopened : verify ⟨.str strongSecret, "HS256", .int 3600, flat⟩ now
      (tokenOf .hs256 (Text.Utf8.bytes strongSecret) (.obj memberClaims)) =
        runChecks memberClaims (claimChecks (secondOf now)) :=
    verify_tokenOf (a := .hs256) (by rfl) (by decide) restorable_memberClaims now
  rw [verifyDatum]
  exact hopened.trans rfl

end Gatehouse.Token
