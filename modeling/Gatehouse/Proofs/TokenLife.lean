import Gatehouse.Proofs.TokenRoundTrip

/-!
# A token's life only moves forward

A verifier looks at the clock in two places: at the second from which a token holds, and at
the one until which it does. Everything else that it settles about a token comes out the same
at any time. So what becomes of a token can be told without a clock: `Life` has the second in
which it begins and the one in which it ends, where there are any, and what the verifier
makes of it in between, which may be a verdict or a fault.

`exists_life` finds the life of whatever is shown as a token. It goes backwards through the
checks of the claims: what stands behind the check of the end knows no clock, that check
gives the life an end, and the one before it a beginning. After that only lives are compared,
and no check is looked at again.
-/

namespace Gatehouse.Token

/-- What becomes of a token as time goes on: it is worth nothing before it begins, has
expired once it has ended, and in between it is what `within` says. -/
structure Life where
  begins : Option Int
  ends : Option Int
  within : Except VerifyFault Verdict

namespace Life

variable {life : Life} {second later : Int} {i j : Identity}

/-- What a life comes to in a second. -/
def verdict (life : Life) (second : Int) : Except VerifyFault Verdict :=
  if life.begins.any (second < ·) then .ok .invalid
  else if life.ends.any (· < second) then .ok .expired
  else life.within

/-- What never changes. -/
def constant (r : Except VerifyFault Verdict) : Life := ⟨none, none, r⟩

theorem begun_of_le (hle : second ≤ later) (h : life.begins.any (second < ·) = false) :
    life.begins.any (later < ·) = false := by
  cases hbegins : life.begins with
  | none => rfl
  | some n =>
      rw [hbegins] at h
      simp only [Option.any_some, decide_eq_false_iff_not] at h ⊢
      omega

theorem ended_of_le (hle : second ≤ later) (h : life.ends.any (· < second) = true) :
    life.ends.any (· < later) = true := by
  cases hends : life.ends with
  | none => rw [hends] at h; cases h
  | some n =>
      rw [hends] at h
      simp only [Option.any_some, decide_eq_true_eq] at h ⊢
      omega

/-- Whoever is accepted is the one for whom the token stands between its ends. -/
theorem within_of_accepted (h : life.verdict second = .ok (.accepted i)) :
    life.begins.any (second < ·) = false ∧ life.within = .ok (.accepted i) := by
  rw [verdict] at h
  split at h
  · cases h
  · next hbegun =>
      split at h
      · cases h
      · exact ⟨Bool.eq_false_iff.mpr hbegun, h⟩

theorem expired_of_le (hle : second ≤ later) (h : life.verdict second = .ok .expired) :
    life.verdict later = .ok .expired := by
  rw [verdict] at h
  split at h
  · cases h
  · next hbegun =>
      have hlater := begun_of_le hle (Bool.eq_false_iff.mpr hbegun)
      rw [verdict, hlater, if_neg Bool.false_ne_true]
      split at h
      · next hended => rw [ended_of_le hle hended, if_pos rfl]
      · rw [h, ite_self]

theorem accepted_of_le (hle : second ≤ later) (h : life.verdict second = .ok (.accepted i)) :
    life.verdict later = .ok (.accepted i) ∨ life.verdict later = .ok .expired := by
  obtain ⟨hbegun, hwithin⟩ := within_of_accepted h
  rw [verdict, begun_of_le hle hbegun, if_neg Bool.false_ne_true, hwithin]
  split
  · exact Or.inr rfl
  · exact Or.inl rfl

theorem accepted_unique (h : life.verdict second = .ok (.accepted i))
    (h' : life.verdict later = .ok (.accepted j)) : i = j := by
  have hsame := (within_of_accepted h).2.symm.trans (within_of_accepted h').2
  injection hsame with hsame
  injection hsame

end Life

/-! ## The checks of the claims -/

variable {claims : List (String × Json)}

/-- A check of a time does not ask for the clock, whether it ends the matter or leaves it
open, unless the claims name a second for it to judge. -/
theorem runChecks_timeCheck_cases (claims : List (String × Json)) (name : String) :
    (∃ r, ∀ judge rest, runChecks claims (timeCheck name judge :: rest) = r) ∨
      (∀ judge rest, runChecks claims (timeCheck name judge :: rest) = runChecks claims rest) ∨
      ∃ n, ∀ judge rest, runChecks claims (timeCheck name judge :: rest) =
        match judge n with
        | some v => .ok v
        | none => runChecks claims rest := by
  simp only [runChecks, timeCheck]
  cases claims.lookup name with
  | none => exact Or.inr (Or.inl fun _ _ => rfl)
  | some v =>
      simp only
      cases wholeSeconds v with
      | error f => exact Or.inl ⟨.error f, fun _ _ => rfl⟩
      | ok found =>
          cases found with
          | none => exact Or.inl ⟨.ok .invalid, fun _ _ => rfl⟩
          | some n =>
              refine Or.inr (Or.inr ⟨n, fun judge _ => ?_⟩)
              simp only
              cases judge n <;> rfl

/-- Behind the check of the end there is no clock. -/
theorem exists_life_of_ends (claims : List (String × Json)) (rest : List ClaimCheck) :
    ∃ ends within, ∀ second,
      runChecks claims (timeCheck "exp" (fun n => if n < second then some .expired else none) ::
        rest) = Life.verdict ⟨none, ends, within⟩ second := by
  rcases runChecks_timeCheck_cases claims "exp" with ⟨r, hr⟩ | hopen | ⟨n, hn⟩
  · exact ⟨none, r, fun second => hr _ rest⟩
  · exact ⟨none, runChecks claims rest, fun second => hopen _ rest⟩
  · refine ⟨some n, runChecks claims rest, fun second => (hn _ rest).trans ?_⟩
    by_cases hended : n < second <;> simp [Life.verdict, hended]

/-- A beginning can be put in front of a life that has none. -/
theorem exists_life_of_begins {rest : Int → List ClaimCheck} {ends : Option Int}
    {within : Except VerifyFault Verdict}
    (h : ∀ second, runChecks claims (rest second) = Life.verdict ⟨none, ends, within⟩ second) :
    ∃ life : Life, ∀ second,
      runChecks claims (timeCheck "nbf" (fun n => if second < n then some .invalid else none) ::
        rest second) = life.verdict second := by
  rcases runChecks_timeCheck_cases claims "nbf" with ⟨r, hr⟩ | hopen | ⟨n, hn⟩
  · exact ⟨.constant r, fun second => hr _ _⟩
  · exact ⟨⟨none, ends, within⟩, fun second => (hopen _ _).trans (h second)⟩
  · refine ⟨⟨some n, ends, within⟩, fun second => (hn _ _).trans ?_⟩
    rw [h second]
    by_cases hbegun : second < n <;> simp [Life.verdict, hbegun]

theorem exists_life_of_claims (claims : List (String × Json)) :
    ∃ life : Life, ∀ second, runChecks claims (claimChecks second) = life.verdict second := by
  obtain ⟨ends, within, hends⟩ := exists_life_of_ends claims
    [absenceCheck "aud", textCheck "sub", textCheck "jti", absenceCheck "at_hash"]
  obtain ⟨life, hlife⟩ := exists_life_of_begins hends
  rcases runChecks_timeCheck_cases claims "iat" with ⟨r, hr⟩ | hopen | ⟨n, hn⟩
  · exact ⟨.constant r, fun second => hr _ _⟩
  · exact ⟨life, fun second => (hopen _ _).trans (hlife second)⟩
  · exact ⟨life, fun second => (hn _ _).trans (hlife second)⟩

/-! ## What is shown as a token -/

theorem exists_life_of_judge (depth : Nat) (payload : List UInt8) :
    ∃ life : Life, ∀ second, judge depth second payload = life.verdict second := by
  cases hpayload : objectOf depth payload with
  | error why => exact ⟨.constant _, fun second => by rw [judge, hpayload]; rfl⟩
  | ok found =>
      cases found with
      | none => exact ⟨.constant _, fun second => by rw [judge, hpayload]; rfl⟩
      | some claims =>
          obtain ⟨life, hlife⟩ := exists_life_of_claims claims
          exact ⟨life, fun second => by rw [judge, hpayload]; exact hlife second⟩

/-- Up to the payload of a token nothing depends on the time, and nobody is accepted. -/
theorem verify_cases (c : Config) (token : String) :
    (∃ r, (∀ now, verify c now token = r) ∧ ∀ i, r ≠ .ok (.accepted i)) ∨
      ∃ p, parts? token = some p ∧
        ∀ now, verify c now token = judge c.depths.payload (secondOf now) p.payload := by
  have hfault : ∀ (why : VerifyFault) i, Except.error why ≠ .ok (Verdict.accepted i) := by
    intro why i h
    cases h
  have hinvalid : ∀ i, (.ok .invalid : Except VerifyFault Verdict) ≠ .ok (.accepted i) := by
    intro i h
    cases h
  simp only [verify]
  split
  · exact Or.inl ⟨_, fun _ => rfl, hinvalid⟩
  split
  · exact Or.inl ⟨_, fun _ => rfl, hfault _⟩
  · exact Or.inl ⟨_, fun _ => rfl, hinvalid⟩
  next header _ =>
    split
    · exact Or.inl ⟨_, fun _ => rfl, hinvalid⟩
    next p hparts =>
      by_cases hnames : namesAlgorithm c header = true
      · simp only [hnames, ↓reduceIte]
        split
        · exact Or.inl ⟨_, fun _ => rfl, hfault _⟩
        · split
          · exact Or.inl ⟨_, fun _ => rfl, hfault _⟩
          · exact Or.inl ⟨_, fun _ => rfl, hinvalid⟩
          · exact Or.inr ⟨p, hparts, fun _ => rfl⟩
      · exact Or.inl ⟨_, fun _ => if_neg hnames, hinvalid⟩

/-- Whatever is shown as a token has a life. -/
theorem exists_life (c : Config) (shown : Datum) :
    ∃ life : Life, ∀ now, verifyDatum c now shown = life.verdict (secondOf now) := by
  cases shown with
  | str token =>
      rcases verify_cases c token with ⟨r, hr, -⟩ | ⟨p, -, hjudge⟩
      · exact ⟨.constant r, hr⟩
      · obtain ⟨life, hlife⟩ := exists_life_of_judge c.depths.payload p.payload
        exact ⟨life, fun now => (hjudge now).trans (hlife (secondOf now))⟩
  | unpaired points => exact ⟨.constant (.error (.notCharacters points)), fun _ => rfl⟩
  | _ => exact ⟨.constant (.ok .invalid), fun _ => rfl⟩

theorem secondOf_le {now later : Int} (h : now ≤ later) : secondOf now ≤ secondOf later := by
  rw [secondOf, secondOf, Int.fdiv_eq_ediv_of_nonneg _ (Int.natCast_nonneg _),
    Int.fdiv_eq_ediv_of_nonneg _ (Int.natCast_nonneg _)]
  exact Int.ediv_le_ediv (by decide) h

/-- What has expired stays expired. Who is accepted is accepted until the token has expired,
and nobody else is, at any time. -/
theorem verdict_moves_forward (c : Config) (shown : Datum) :
    (∀ now later, now ≤ later → verifyDatum c now shown = .ok .expired →
      verifyDatum c later shown = .ok .expired) ∧
    (∀ now later i, now ≤ later → verifyDatum c now shown = .ok (.accepted i) →
      verifyDatum c later shown = .ok (.accepted i) ∨
        verifyDatum c later shown = .ok .expired) ∧
    ∀ now later i j, verifyDatum c now shown = .ok (.accepted i) →
      verifyDatum c later shown = .ok (.accepted j) → i = j := by
  obtain ⟨life, hlife⟩ := exists_life c shown
  simp only [hlife]
  refine ⟨fun now later hle => ?_, fun now later i hle => ?_, fun now later i j => ?_⟩
  · exact life.expired_of_le (secondOf_le hle)
  · exact life.accepted_of_le (secondOf_le hle)
  · exact life.accepted_unique

/-! A token that has a first second, and a last one that is written as a text. -/

def guestClaims : List (String × Json) :=
  [("nbf", .int 1700000000), ("sub", .str "ann"), ("role", .str "guest"),
    ("exp", .str " 1_700_000_060 ")]

theorem restorable_guestClaims : Json.Restorable 1 (.obj guestClaims) := by
  have hnames : ["nbf", "sub", "role", "exp"].Nodup := by decide
  have hcalendar : OnCalendar 1700000000000000 := ⟨by decide, by decide⟩
  have hshort : Json.isShort 1700000000 = true := isShort_of_onCalendar hcalendar
  refine .obj hnames fun m hm => ?_
  simp only [guestClaims, List.mem_cons, List.not_mem_nil, or_false] at hm
  rcases hm with rfl | rfl | rfl | rfl
  · exact .int hshort
  · exact .str _
  · exact .str _
  · exact .str _

def hostConfig : Config := ⟨.str "open sesame", "HS256", .int 60, flat⟩

def guestToken : Datum :=
  .str (tokenOf .hs256 (Text.Utf8.bytes "open sesame") (.obj guestClaims))

theorem verifyDatum_guestToken (now : Int) :
    verifyDatum hostConfig now guestToken =
      runChecks guestClaims (claimChecks (secondOf now)) := by
  have hopened : verify hostConfig now
      (tokenOf .hs256 (Text.Utf8.bytes "open sesame") (.obj guestClaims)) =
        runChecks guestClaims (claimChecks (secondOf now)) :=
    verify_tokenOf (a := .hs256) (by rfl) (by decide) restorable_guestClaims now
  rw [guestToken, verifyDatum, hopened]

theorem guest_moves_forward :
    verifyDatum hostConfig 1699999999999999 guestToken = .ok .invalid ∧
      verifyDatum hostConfig 1700000060999999 guestToken =
        .ok (.accepted ⟨.str "ann", .str "guest"⟩) ∧
      verifyDatum hostConfig 1700000061000000 guestToken = .ok .expired ∧
      (∀ later, 1700000061000000 ≤ later →
        verifyDatum hostConfig later guestToken = .ok .expired) ∧
      (∀ later, 1700000060999999 ≤ later →
        verifyDatum hostConfig later guestToken = .ok (.accepted ⟨.str "ann", .str "guest"⟩) ∨
          verifyDatum hostConfig later guestToken = .ok .expired) ∧
      ∀ now i, verifyDatum hostConfig now guestToken = .ok (.accepted i) →
        i = ⟨.str "ann", .str "guest"⟩ := by
  have hearly : verifyDatum hostConfig 1699999999999999 guestToken = .ok .invalid := by
    rw [verifyDatum_guestToken]
    rfl
  have hlast : verifyDatum hostConfig 1700000060999999 guestToken =
      .ok (.accepted ⟨.str "ann", .str "guest"⟩) := by
    rw [verifyDatum_guestToken]
    rfl
  have hover : verifyDatum hostConfig 1700000061000000 guestToken = .ok .expired := by
    rw [verifyDatum_guestToken]
    rfl
  obtain ⟨hexpired, haccepted, hunique⟩ := verdict_moves_forward hostConfig guestToken
  exact ⟨hearly, hlast, hover, fun later hle => hexpired _ later hle hover,
    fun later hle => haccepted _ later _ hle hlast, fun now i hi => hunique now _ i _ hi hlast⟩

end Gatehouse.Token
