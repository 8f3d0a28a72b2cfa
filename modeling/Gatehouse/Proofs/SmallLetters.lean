import Gatehouse.Text.Case

/-!
# Small letters stay as they are

Verbs are put into small letters twice, once when a declaration is read and once
more when its rules are settled for a verb. Nothing depends on how often, because
no small form has a small form of its own.

The table of letters comes in runs, so this is a fact about pairs of runs: a run
lands on characters that make a run again, and no run of the table shares one with
it. `isApart` compares the ends of two runs and, where they lie across each other,
the remainders of their steps; it is checked for all pairs once. The final sigma
needs no more than that a small form is never a capital sigma, after which its rule
has nothing to look at.
-/

namespace Gatehouse.Text

/-! ## Runs -/

/-- Whether the code point `n` lies on the run. -/
def CaseRun.Holds (r : CaseRun) (n : Nat) : Prop :=
  r.first ≤ n ∧ n ≤ r.last ∧ (n - r.first) % r.stride = 0

/-- Where a run takes its characters, as a run that leaves them there. -/
def CaseRun.landing (r : CaseRun) : CaseRun where
  first := ((r.first : Int) + r.distance).toNat
  last := ((r.last : Int) + r.distance).toNat
  stride := if r.first = r.last then 0 else r.stride
  distance := 0

/-- Whether two runs have no character in common, as far as their ends and the
remainders of their steps show. -/
def CaseRun.isApart (r s : CaseRun) : Bool :=
  Nat.blt r.last s.first || Nat.blt s.last r.first ||
    (s.first ≤ r.first && r.stride % s.stride == 0 && (r.first - s.first) % s.stride != 0)

/-- Whether a run lies among the small letters of ASCII or beyond ASCII, past the two
capitals that have a rule of their own. -/
def CaseRun.isBeyondCapitals (r : CaseRun) : Bool :=
  (0x61 ≤ r.first && r.last ≤ 0x7a) ||
    (0x80 ≤ r.first && (r.last < 0xd800 || (0xdfff < r.first && r.last < 0x110000)) &&
      (r.last < 0x130 || 0x130 < r.first) && (r.last < 0x3a3 || 0x3a3 < r.first))

theorem lowerRuns_apart :
    (lowerRuns.all fun r => lowerRuns.all fun s => r.landing.isApart s) = true := by
  decide +kernel

theorem lowerRuns_beyondCapitals :
    (lowerRuns.all fun r => r.landing.isBeyondCapitals) = true := by
  decide

theorem CaseRun.target?_eq_none {r : CaseRun} {n : Nat} (h : ¬ r.Holds n) :
    r.target? n = none :=
  if_neg h

theorem CaseRun.holds_of_target? {r : CaseRun} {n t : Nat} (h : r.target? n = some t) :
    r.Holds n ∧ ((n : Int) + r.distance).toNat = t := by
  unfold CaseRun.target? at h
  split at h
  · next hon =>
      injection h with h
      exact ⟨hon, h⟩
  · cases h

theorem CaseRun.landing_holds {r : CaseRun} {n t : Nat} (hpos : 0 < r.landing.first)
    (h : r.target? n = some t) : r.landing.Holds t := by
  obtain ⟨⟨hlo, hhi, hstep⟩, ht⟩ := CaseRun.holds_of_target? h
  simp only [CaseRun.landing] at hpos
  have hdiff : t - ((r.first : Int) + r.distance).toNat = n - r.first := by omega
  refine ⟨?_, ?_, ?_⟩ <;> simp only [CaseRun.landing]
  · omega
  · omega
  · rw [hdiff]
    split
    · next hone => rw [Nat.mod_zero]; omega
    · exact hstep

theorem CaseRun.not_holds_of_isApart {r s : CaseRun} {n : Nat}
    (hapart : r.isApart s = true) (hr : r.Holds n) : ¬ s.Holds n := by
  rintro ⟨hslo, hshi, hsstep⟩
  obtain ⟨hlo, hhi, hstep⟩ := hr
  simp only [CaseRun.isApart, Bool.or_eq_true, Bool.and_eq_true, Nat.blt_eq,
    decide_eq_true_eq, beq_iff_eq, bne_iff_ne, ne_eq] at hapart
  rcases hapart with (hlt | hlt) | ⟨⟨hle, hsteps⟩, hne⟩
  · omega
  · omega
  · have hfrom : s.stride ∣ n - s.first := Nat.dvd_of_mod_eq_zero hsstep
    have hover : s.stride ∣ n - r.first :=
      Nat.dvd_trans (Nat.dvd_of_mod_eq_zero hsteps) (Nat.dvd_of_mod_eq_zero hstep)
    have hsplit : n - s.first - (n - r.first) = r.first - s.first := by omega
    exact hne (Nat.mod_eq_zero_of_dvd (hsplit ▸ Nat.dvd_sub hfrom hover))

/-! ## Small characters -/

/-- A character that the small letters leave alone wherever it stands. -/
def IsSmall (c : Char) : Prop := c.toNat ≠ 0x3a3 ∧ lowerChar c = [c]

theorem isSmall_of_no_run {c : Char} (hlo : 0x80 ≤ c.toNat) (hi : c.toNat ≠ 0x130)
    (hsigma : c.toNat ≠ 0x3a3) (h : ∀ s ∈ lowerRuns, s.target? c.toNat = none) :
    IsSmall c := by
  refine ⟨hsigma, ?_⟩
  have hmap : mapRuns lowerRuns c.toNat = c.toNat := by
    rw [mapRuns, List.findSome?_eq_none_iff.mpr h]
    rfl
  rw [lowerChar, if_neg (by omega), if_neg hi, hmap, Char.ofNat_toNat]

theorem toLower_ascii_isSmall : ∀ n : Fin 0x80, IsSmall (Char.ofNat n).toLower := by
  unfold IsSmall
  decide

theorem isSmall_small_ascii {n : Nat} (hlo : 0x61 ≤ n) (hhi : n ≤ 0x7a) :
    IsSmall (Char.ofNat n) := by
  have hall : ∀ m : Fin 26, IsSmall (Char.ofNat (0x61 + m)) := by
    unfold IsSmall
    decide
  have hn := hall ⟨n - 0x61, by omega⟩
  rwa [show 0x61 + (n - 0x61) = n by omega] at hn

theorem isSmall_dot_above : IsSmall (Char.ofNat 0x307) := by
  unfold IsSmall
  decide

/-- Where a run leads, nothing leads further. -/
theorem isSmall_of_target {r : CaseRun} (hr : r ∈ lowerRuns) {n t : Nat}
    (h : r.target? n = some t) : IsSmall (Char.ofNat t) := by
  have hbeyond := List.all_eq_true.mp lowerRuns_beyondCapitals r hr
  simp only [CaseRun.isBeyondCapitals, Bool.or_eq_true, Bool.and_eq_true,
    decide_eq_true_eq] at hbeyond
  have hon : r.landing.Holds t := CaseRun.landing_holds (by omega) h
  obtain ⟨hlo, hhi, -⟩ := id hon
  rcases hbeyond with ⟨hfirst, hlast⟩ | ⟨⟨⟨hfirst, hrange⟩, hi⟩, hsigma⟩
  · exact isSmall_small_ascii (by omega) (by omega)
  · have hvalid : t.isValidChar := by
      simp only [Nat.isValidChar]
      omega
    have hchar : (Char.ofNat t).toNat = t := by
      rw [Char.ofNat, dif_pos hvalid]
      rfl
    refine isSmall_of_no_run (by omega) (by omega) (by omega) fun s hs => ?_
    rw [hchar]
    have hapart := List.all_eq_true.mp (List.all_eq_true.mp lowerRuns_apart r hr) s hs
    exact CaseRun.target?_eq_none (CaseRun.not_holds_of_isApart hapart hon)

theorem isSmall_of_mem_lowerChar {c d : Char} (hc : c.toNat ≠ 0x3a3)
    (hd : d ∈ lowerChar c) : IsSmall d := by
  unfold lowerChar at hd
  split at hd
  · next hascii =>
      rw [List.mem_singleton.mp hd]
      have h := toLower_ascii_isSmall ⟨c.toNat, hascii⟩
      rwa [Char.ofNat_toNat] at h
  · next hlo =>
      split at hd
      · next hi =>
          rw [List.mem_cons, List.mem_singleton] at hd
          rcases hd with rfl | rfl
          · exact isSmall_small_ascii (n := 0x69) (by decide) (by decide)
          · exact isSmall_dot_above
      · next hi =>
          rw [List.mem_singleton.mp hd, mapRuns]
          cases hrun : lowerRuns.findSome? (·.target? c.toNat) with
          | none =>
              rw [Option.getD_none, Char.ofNat_toNat]
              exact isSmall_of_no_run (by omega) hi hc
                (List.findSome?_eq_none_iff.mp hrun)
          | some t =>
              obtain ⟨r, hr, ht⟩ := List.exists_of_findSome?_eq_some hrun
              exact isSmall_of_target hr ht

/-! ## Texts -/

theorem isSmall_of_mem_lowerFrom {b : Bool} {cs : List Char} {d : Char}
    (hd : d ∈ lowerFrom b cs) : IsSmall d := by
  induction cs generalizing b with
  | nil => cases hd
  | cons c rest ih =>
      rw [lowerFrom] at hd
      rcases List.mem_append.mp hd with hsmall | hrest
      · split at hsmall
        · next hsigma =>
            rw [List.mem_singleton.mp hsmall]
            have hboth : ∀ final : Bool,
                IsSmall (Char.ofNat (if final = true then 0x3c2 else 0x3c3)) := by
              unfold IsSmall
              decide
            exact hboth _
        · next hsigma => exact isSmall_of_mem_lowerChar hsigma hsmall
      · exact ih hrest

theorem lowerFrom_eq_self {b : Bool} {cs : List Char} (h : ∀ c ∈ cs, IsSmall c) :
    lowerFrom b cs = cs := by
  induction cs generalizing b with
  | nil => rfl
  | cons c rest ih =>
      obtain ⟨hsigma, hc⟩ := h c List.mem_cons_self
      rw [lowerFrom, if_neg hsigma, hc, ih fun d hd => h d (List.mem_cons_of_mem c hd)]
      rfl

/-- Small letters of small letters are the same. -/
@[simp] theorem lower_lower (s : String) : lower (lower s) = lower s := by
  unfold lower
  rw [String.toList_ofList, lowerFrom_eq_self fun c hc => isSmall_of_mem_lowerFrom hc]

end Gatehouse.Text
