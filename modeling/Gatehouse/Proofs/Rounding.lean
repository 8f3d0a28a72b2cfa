import Gatehouse.Number.Shortest
import Mathlib.Algebra.Order.Field.Power
import Mathlib.Data.Nat.Cast.Field
import Mathlib.Data.Rat.Cast.Order
import Mathlib.Tactic.Linarith
import Mathlib.Tactic.Positivity
import Mathlib.Tactic.Ring

/-!
# Rounding sees the ratio

A decimal is rounded as the ratio it stands for: however it is split into digits and a
power of ten, the floating point number is the same, and a ratio that is a floating point
number is rounded to itself.

Two things stand in the way. Rounding computes with numerators and denominators, so the
first section brings it to ratios, as rational numbers. And powers of ten far outside the
range are not computed, so `ofDecimal_eq_ofRatio` has to show that the short cuts agree
with what rounding would have come to: above the range every ratio is infinite, and below
it every ratio is zero.
-/

namespace Gatehouse.Binary64

variable {num den num' den' m : Nat} {e : Int} {negative : Bool}

/-! ## Ratios -/

theorem scaleDown_ratio (num den : Nat) (e : Int) :
    ((scaleDown num den e).1 : ℚ) / (scaleDown num den e).2 = num / den / (2 : ℚ) ^ e := by
  rw [scaleDown]
  split
  · next h =>
      have hpow : (2 : ℚ) ^ e = 2 ^ e.toNat := by
        rw [← zpow_natCast, Int.toNat_of_nonneg h]
      simp only [Nat.pow_eq, Nat.cast_mul, Nat.cast_pow, Nat.cast_ofNat, hpow]
      rw [div_div]
  · next h =>
      have hpow : (2 : ℚ) ^ e = (2 ^ (-e).toNat)⁻¹ := by
        rw [← zpow_natCast, Int.toNat_of_nonneg (by omega), zpow_neg, inv_inv]
      simp only [Nat.pow_eq, Nat.cast_mul, Nat.cast_pow, Nat.cast_ofNat, hpow]
      rw [div_inv_eq_mul, div_mul_eq_mul_div]

theorem scaleDown_pos (hden : 0 < den) (e : Int) : 0 < (scaleDown num den e).2 := by
  rw [scaleDown]
  split
  · exact Nat.mul_pos hden (Nat.pow_pos (by decide))
  · exact hden

/-- A ratio lies between two powers of two that follow each other. -/
theorem floorLog2_bounds (hnum : 0 < num) (hden : 0 < den) :
    (2 : ℚ) ^ floorLog2 num den ≤ num / den ∧ (num : ℚ) / den < 2 ^ (floorLog2 num den + 1) := by
  have htwo : (2 : ℚ) ≠ 0 := by norm_num
  have hd : (0 : ℚ) < den := by exact_mod_cast hden
  have hnumLow : (2 : ℚ) ^ (Nat.log2 num : Int) ≤ num := by
    exact_mod_cast Nat.log2_self_le (by omega)
  have hnumHigh : (num : ℚ) < 2 ^ (Nat.log2 num + 1 : Int) := by
    exact_mod_cast Nat.lt_log2_self (n := num)
  have hdenLow : (2 : ℚ) ^ (Nat.log2 den : Int) ≤ den := by
    exact_mod_cast Nat.log2_self_le (by omega)
  have hdenHigh : (den : ℚ) ≤ 2 ^ (Nat.log2 den + 1 : Int) := by
    exact_mod_cast (Nat.lt_log2_self (n := den)).le
  -- the difference of the two logarithms is right or too large by one
  obtain ⟨t, ht⟩ : ∃ t : Int, t = (Nat.log2 num : Int) - Nat.log2 den := ⟨_, rfl⟩
  have habove : (num : ℚ) / den < 2 ^ (t + 1) := by
    rw [div_lt_iff₀ hd]
    calc (num : ℚ) < 2 ^ (Nat.log2 num + 1 : Int) := hnumHigh
      _ = 2 ^ (t + 1) * 2 ^ (Nat.log2 den : Int) := by
          rw [← zpow_add₀ htwo]; congr 1; omega
      _ ≤ 2 ^ (t + 1) * den := mul_le_mul_of_nonneg_left hdenLow (by positivity)
  have hbelow : (2 : ℚ) ^ (t - 1) ≤ num / den := by
    rw [le_div_iff₀ hd]
    calc (2 : ℚ) ^ (t - 1) * den ≤ 2 ^ (t - 1) * 2 ^ (Nat.log2 den + 1 : Int) :=
          mul_le_mul_of_nonneg_left hdenHigh (by positivity)
      _ = 2 ^ (Nat.log2 num : Int) := by
          rw [← zpow_add₀ htwo]; congr 1; omega
      _ ≤ num := hnumLow
  have hpos : (0 : ℚ) < (scaleDown num den t).2 := by exact_mod_cast scaleDown_pos hden t
  have hiff : (scaleDown num den t).2 ≤ (scaleDown num den t).1 ↔ (2 : ℚ) ^ t ≤ num / den := by
    rw [← Nat.cast_le (α := ℚ), ← one_le_div hpos, scaleDown_ratio, one_le_div (by positivity)]
  simp only [floorLog2, ← ht]
  split
  · next h => exact ⟨hiff.mp h, habove⟩
  · next h =>
      rw [sub_add_cancel]
      exact ⟨hbelow, not_le.mp fun h' => h (hiff.mpr h')⟩

/-- Between two powers of two there is room for one exponent only. -/
theorem le_of_zpow_bounds {a b : Int} {q : ℚ} (hlow : (2 : ℚ) ^ a ≤ q)
    (hhigh : q < 2 ^ (b + 1)) : a ≤ b := by
  have hlt : (2 : ℚ) ^ a < 2 ^ (b + 1) := hlow.trans_lt hhigh
  have h := (zpow_lt_zpow_iff_right₀ (by norm_num : (1 : ℚ) < 2)).mp hlt
  omega

/-! ## Rounding a ratio -/

theorem roundHalfEven_of_dvd (hden : 0 < den) (h : num = m * den) : roundHalfEven num den = m := by
  subst h
  have hquot : m * den / den = m := Nat.mul_div_cancel m hden
  have hrest : m * den % den = 0 := Nat.mul_mod_left m den
  rw [roundHalfEven, hquot, hrest]
  split
  · omega
  · rfl

theorem roundHalfEven_of_small (h : 2 * num < den) : roundHalfEven num den = 0 := by
  have hquot : num / den = 0 := Nat.div_eq_of_lt (by omega)
  have hrest : num % den = num := Nat.mod_eq_of_lt (by omega)
  rw [roundHalfEven, hquot, hrest]
  split
  · omega
  · rfl

theorem pack_of_canonical (negative : Bool) (h : Canonical m e) :
    pack negative m e = .finite negative m e h := by
  rw [pack, dif_pos h]

theorem pack_of_large (negative : Bool) (m : Nat) (h : 971 < e) :
    pack negative m e = .infinite negative := by
  rw [pack, dif_neg]
  exact fun hcanonical => absurd hcanonical.2.2.1 (by omega)

/-- Above the range every ratio is infinite. -/
theorem roundReduced_of_large (negative : Bool) (hnum : 0 < num) (hden : 0 < den)
    (h : (2 : ℚ) ^ (1024 : Int) ≤ num / den) :
    roundReduced negative num den = .infinite negative := by
  have hlog : 1024 ≤ floorLog2 num den := le_of_zpow_bounds h (floorLog2_bounds hnum hden).2
  simp only [roundReduced, if_neg (by omega : ¬ num = 0)]
  split
  · exact pack_of_large negative _ (by omega)
  · exact pack_of_large negative _ (by omega)

/-- Below the range every ratio is zero. -/
theorem roundReduced_of_small (negative : Bool) (hnum : 0 < num) (hden : 0 < den)
    (h : (num : ℚ) / den < 2 ^ (-1075 : Int)) : roundReduced negative num den = zero negative := by
  have hlog : floorLog2 num den ≤ -1076 :=
    le_of_zpow_bounds (floorLog2_bounds hnum hden).1 (by simpa using h)
  have hexp : max (floorLog2 num den - 52) (-1074) = -1074 := by omega
  have hpos : (0 : ℚ) < (scaleDown num den (-1074)).2 := by
    exact_mod_cast scaleDown_pos hden _
  have hsmall : 2 * (scaleDown num den (-1074)).1 < (scaleDown num den (-1074)).2 := by
    have hratio := scaleDown_ratio num den (-1074)
    have hhalf : (num : ℚ) / den / 2 ^ (-1074 : Int) < 1 / 2 := by
      rw [div_lt_iff₀ (by positivity)]
      calc (num : ℚ) / den < 2 ^ (-1075 : Int) := h
        _ = 1 / 2 * 2 ^ (-1074 : Int) := by
            rw [show (-1075 : Int) = -1 + -1074 from rfl, zpow_add₀ (by norm_num)]; norm_num
    rw [← hratio, div_lt_iff₀ hpos] at hhalf
    have hcast : (2 * (scaleDown num den (-1074)).1 : ℚ) < (scaleDown num den (-1074)).2 := by
      linarith
    exact_mod_cast hcast
  simp only [roundReduced, if_neg (by omega : ¬ num = 0), hexp, roundHalfEven_of_small hsmall]
  exact pack_of_canonical negative (by decide)

/-- A ratio that is a floating point number is rounded to it. -/
theorem roundReduced_of_eq (negative : Bool) (hnum : 0 < num) (hden : 0 < den)
    (hcanonical : Canonical m e) (h : (num : ℚ) / den = m * (2 : ℚ) ^ e) :
    roundReduced negative num den = .finite negative m e hcanonical := by
  obtain ⟨hlow, hhigh⟩ := floorLog2_bounds hnum hden
  obtain ⟨hm, hmin, -, hnormal⟩ := hcanonical
  have hpos : (0 : ℚ) < num / den := by positivity
  have hmpos : (0 : ℚ) < m := by
    rw [h] at hpos
    exact pos_of_mul_pos_left hpos (by positivity)
  rw [h] at hlow hhigh
  -- the exponent is the one that the mantissa has room for
  have hupper : floorLog2 num den ≤ e + 52 := by
    refine le_of_zpow_bounds hlow ?_
    have hcast : (m : ℚ) < 2 ^ (53 : Int) := by exact_mod_cast hm
    calc (m : ℚ) * 2 ^ e < 2 ^ (53 : Int) * 2 ^ e :=
          mul_lt_mul_of_pos_right hcast (by positivity)
      _ = 2 ^ (e + 52 + 1) := by rw [← zpow_add₀ (by norm_num)]; congr 1; omega
  have hexp : max (floorLog2 num den - 52) (-1074) = e := by
    rcases hnormal with hnormal | rfl
    · have hlower : e + 52 ≤ floorLog2 num den := by
        refine le_of_zpow_bounds ?_ hhigh
        have hcast : (2 : ℚ) ^ (52 : Int) ≤ m := by exact_mod_cast hnormal
        calc (2 : ℚ) ^ (e + 52) = 2 ^ (52 : Int) * 2 ^ e := by
              rw [← zpow_add₀ (by norm_num)]; congr 1; omega
          _ ≤ m * 2 ^ e := mul_le_mul_of_nonneg_right hcast (by positivity)
      omega
    · omega
  have hround : roundHalfEven (scaleDown num den e).1 (scaleDown num den e).2 = m := by
    refine roundHalfEven_of_dvd (scaleDown_pos hden e) ?_
    have hden' : (0 : ℚ) < (scaleDown num den e).2 := by exact_mod_cast scaleDown_pos hden e
    have hratio := scaleDown_ratio num den e
    rw [h, mul_div_assoc, div_self (by positivity), mul_one, div_eq_iff hden'.ne'] at hratio
    exact_mod_cast hratio
  have hne : m ≠ Nat.pow 2 53 := by omega
  simp only [roundReduced, if_neg (by omega : ¬ num = 0), hexp, hround, if_neg hne]
  exact pack_of_canonical negative _

/-- Two pairs that stand for the same ratio have the same parts without common factors. -/
theorem ofRatio_congr (negative : Bool) (hden : 0 < den) (hden' : 0 < den')
    (h : num * den' = num' * den) : ofRatio negative num den = ofRatio negative num' den' := by
  have hg : 0 < Nat.gcd num den := Nat.gcd_pos_of_pos_right num hden
  have hg' : 0 < Nat.gcd num' den' := Nat.gcd_pos_of_pos_right num' hden'
  have hcoprime : Nat.Coprime (num / Nat.gcd num den) (den / Nat.gcd num den) :=
    Nat.coprime_div_gcd_div_gcd hg
  have hcoprime' : Nat.Coprime (num' / Nat.gcd num' den') (den' / Nat.gcd num' den') :=
    Nat.coprime_div_gcd_div_gcd hg'
  have ha := Nat.div_mul_cancel (Nat.gcd_dvd_left num den)
  have hb := Nat.div_mul_cancel (Nat.gcd_dvd_right num den)
  have ha' := Nat.div_mul_cancel (Nat.gcd_dvd_left num' den')
  have hb' := Nat.div_mul_cancel (Nat.gcd_dvd_right num' den')
  rw [ofRatio, ofRatio]
  generalize Nat.gcd num den = g at *
  generalize Nat.gcd num' den' = g' at *
  generalize num / g = a at *
  generalize den / g = b at *
  generalize num' / g' = a' at *
  generalize den' / g' = b' at *
  have hcross : a * b' = a' * b := by
    refine Nat.eq_of_mul_eq_mul_left (Nat.mul_pos hg hg') ?_
    calc g * g' * (a * b') = a * g * (b' * g') := by ring
      _ = a' * g' * (b * g) := by rw [ha, hb', ha', hb, h]
      _ = g * g' * (a' * b) := by ring
  have hb_eq : b = b' := by
    refine Nat.dvd_antisymm ?_ ?_
    · exact hcoprime.symm.dvd_of_dvd_mul_left (hcross ▸ Nat.dvd_mul_left b a')
    · exact hcoprime'.symm.dvd_of_dvd_mul_left (hcross ▸ Nat.dvd_mul_left b' a)
  have hbpos : 0 < b := Nat.pos_of_mul_pos_right (hb ▸ hden)
  have ha_eq : a = a' := by
    rw [← hb_eq] at hcross
    exact Nat.eq_of_mul_eq_mul_right hbpos hcross
  rw [ha_eq, hb_eq]

/-- Dividing out a common factor leaves the ratio. -/
theorem exists_reduced (negative : Bool) (hnum : 0 < num) (hden : 0 < den) :
    ∃ a b : Nat, 0 < a ∧ 0 < b ∧ (a : ℚ) / b = num / den ∧
      ofRatio negative num den = roundReduced negative a b := by
  have hg : 0 < Nat.gcd num den := Nat.gcd_pos_of_pos_left den hnum
  refine ⟨num / Nat.gcd num den, den / Nat.gcd num den,
    Nat.div_pos (Nat.gcd_le_left den hnum) hg, Nat.div_pos (Nat.gcd_le_right num hden) hg,
    ?_, rfl⟩
  have hgcast : (Nat.gcd num den : ℚ) ≠ 0 := by exact_mod_cast hg.ne'
  rw [Nat.cast_div (Nat.gcd_dvd_left num den) hgcast,
    Nat.cast_div (Nat.gcd_dvd_right num den) hgcast, div_div_div_cancel_right₀ hgcast]

theorem ofRatio_of_large (negative : Bool) (hnum : 0 < num) (hden : 0 < den)
    (h : (2 : ℚ) ^ (1024 : Int) ≤ num / den) : ofRatio negative num den = .infinite negative := by
  obtain ⟨a, b, ha, hb, hratio, heq⟩ := exists_reduced negative hnum hden
  rw [heq]
  exact roundReduced_of_large negative ha hb (hratio ▸ h)

theorem ofRatio_of_small (negative : Bool) (hnum : 0 < num) (hden : 0 < den)
    (h : (num : ℚ) / den < 2 ^ (-1075 : Int)) : ofRatio negative num den = zero negative := by
  obtain ⟨a, b, ha, hb, hratio, heq⟩ := exists_reduced negative hnum hden
  rw [heq]
  exact roundReduced_of_small negative ha hb (hratio ▸ h)

theorem ofRatio_of_eq (negative : Bool) (hnum : 0 < num) (hden : 0 < den)
    (hcanonical : Canonical m e) (h : (num : ℚ) / den = m * (2 : ℚ) ^ e) :
    ofRatio negative num den = .finite negative m e hcanonical := by
  obtain ⟨a, b, ha, hb, hratio, heq⟩ := exists_reduced negative hnum hden
  rw [heq]
  exact roundReduced_of_eq negative ha hb hcanonical (hratio.trans h)

/-! ## Rounding a decimal -/

variable {digits : Nat}

theorem decimal_ratio (digits : Nat) (e : Int) :
    ((digits * Nat.pow 10 e.toNat : Nat) : ℚ) / (Nat.pow 10 (-e).toNat : Nat) =
      digits * (10 : ℚ) ^ e := by
  rcases Int.le_total 0 e with h | h
  · have hneg : (-e).toNat = 0 := by omega
    have hpow : (10 : ℚ) ^ e = 10 ^ e.toNat := by
      rw [← zpow_natCast, Int.toNat_of_nonneg h]
    simp [hneg, hpow]
  · have hzero : e.toNat = 0 := by omega
    have hpow : (10 : ℚ) ^ e = (10 ^ (-e).toNat)⁻¹ := by
      rw [← zpow_natCast, Int.toNat_of_nonneg (by omega), zpow_neg, inv_inv]
    simp [hzero, hpow, div_eq_mul_inv]

theorem digits_bounds (hdigits : digits ≠ 0) :
    (2 : ℚ) ^ (Nat.log2 digits : Int) ≤ digits ∧
      (digits : ℚ) < 2 ^ (Nat.log2 digits + 1 : Int) := by
  constructor
  · exact_mod_cast Nat.log2_self_le hdigits
  · exact_mod_cast Nat.lt_log2_self (n := digits)

theorem zpow_anti_left {a b : ℚ} (ha : 0 < a) (h : a ≤ b) (he : e ≤ 0) : b ^ e ≤ a ^ e := by
  have hle : a ^ (-e) ≤ b ^ (-e) := zpow_le_zpow_left₀ (by omega) ha.le h
  rw [zpow_neg, zpow_neg] at hle
  exact (inv_le_inv₀ (zpow_pos ha e) (zpow_pos (ha.trans_le h) e)).mp hle

/-- Three and four bits to a decimal place. -/
theorem zpow_two_eq (e : Int) :
    (2 : ℚ) ^ (3 * e) = 8 ^ e ∧ (2 : ℚ) ^ (4 * e) = 16 ^ e := by
  constructor
  · rw [zpow_mul]; norm_num
  · rw [zpow_mul]; norm_num

/-- What is too large to be computed is infinite. -/
theorem large_decimal (hdigits : digits ≠ 0) (h : 400 < (Nat.log2 digits : Int) / 4 + e) :
    (2 : ℚ) ^ (1024 : Int) ≤ digits * (10 : ℚ) ^ e := by
  have hlow := (digits_bounds hdigits).1
  rcases Int.le_total 0 e with he | he
  · have hten : (2 : ℚ) ^ (3 * e) ≤ 10 ^ e := by
      rw [(zpow_two_eq e).1]
      exact zpow_le_zpow_left₀ he (by norm_num) (by norm_num)
    calc (2 : ℚ) ^ (1024 : Int) ≤ 2 ^ ((Nat.log2 digits : Int) + 3 * e) :=
          zpow_le_zpow_right₀ (by norm_num) (by omega)
      _ = 2 ^ (Nat.log2 digits : Int) * 2 ^ (3 * e) := zpow_add₀ (by norm_num) _ _
      _ ≤ digits * 10 ^ e := mul_le_mul hlow hten (by positivity) (by positivity)
  · have hten : (2 : ℚ) ^ (4 * e) ≤ 10 ^ e := by
      rw [(zpow_two_eq e).2]
      exact zpow_anti_left (by norm_num) (by norm_num) he
    calc (2 : ℚ) ^ (1024 : Int) ≤ 2 ^ ((Nat.log2 digits : Int) + 4 * e) :=
          zpow_le_zpow_right₀ (by norm_num) (by omega)
      _ = 2 ^ (Nat.log2 digits : Int) * 2 ^ (4 * e) := zpow_add₀ (by norm_num) _ _
      _ ≤ digits * 10 ^ e := mul_le_mul hlow hten (by positivity) (by positivity)

/-- What is too small to be computed is zero. -/
theorem small_decimal (hdigits : digits ≠ 0) (h : (Nat.log2 digits : Int) / 3 + e < -400) :
    digits * (10 : ℚ) ^ e < 2 ^ (-1075 : Int) := by
  have hhigh := (digits_bounds hdigits).2
  have hten : (10 : ℚ) ^ e ≤ 2 ^ (3 * e) := by
    rw [(zpow_two_eq e).1]
    exact zpow_anti_left (by norm_num) (by norm_num) (by omega)
  calc (digits : ℚ) * 10 ^ e < 2 ^ (Nat.log2 digits + 1 : Int) * 10 ^ e :=
        mul_lt_mul_of_pos_right hhigh (by positivity)
    _ ≤ 2 ^ (Nat.log2 digits + 1 : Int) * 2 ^ (3 * e) :=
        mul_le_mul_of_nonneg_left hten (by positivity)
    _ = 2 ^ ((Nat.log2 digits + 1 : Int) + 3 * e) := (zpow_add₀ (by norm_num) _ _).symm
    _ ≤ 2 ^ (-1075 : Int) := zpow_le_zpow_right₀ (by norm_num) (by omega)

/-- A decimal is rounded as the ratio it stands for. -/
theorem ofDecimal_eq_ofRatio (negative : Bool) (hdigits : digits ≠ 0) (e : Int) :
    ofDecimal negative digits e =
      ofRatio negative (digits * Nat.pow 10 e.toNat) (Nat.pow 10 (-e).toNat) := by
  simp only [Nat.pow_eq]
  have hnum : 0 < digits * 10 ^ e.toNat := Nat.mul_pos (by omega) (Nat.pow_pos (by decide))
  have hden : 0 < 10 ^ (-e).toNat := Nat.pow_pos (by decide)
  have hratio := decimal_ratio digits e
  simp only [Nat.pow_eq] at hratio
  simp only [ofDecimal, if_neg hdigits, Nat.pow_eq]
  split
  · next h =>
      refine (ofRatio_of_large negative hnum hden ?_).symm
      rw [hratio]
      exact large_decimal hdigits h
  · split
    · next h =>
        refine (ofRatio_of_small negative hnum hden ?_).symm
        rw [hratio]
        exact small_decimal hdigits h
    · split
      · next h =>
          have hzero : (-e).toNat = 0 := by omega
          rw [hzero, Nat.pow_zero]
      · next h =>
          have hzero : e.toNat = 0 := by omega
          rw [hzero, Nat.pow_zero, Nat.mul_one]

/-- Zeros at the end of the digits may as well stand in the power of ten. -/
theorem ofDecimal_shift (negative : Bool) (digits k : Nat) (e : Int) :
    ofDecimal negative (digits * 10 ^ k) e = ofDecimal negative digits (e + k) := by
  rcases Nat.eq_zero_or_pos digits with rfl | hpos
  · simp only [Nat.zero_mul, ofDecimal, ↓reduceIte]
  · have hpow : 0 < 10 ^ k := Nat.pow_pos (by decide)
    have hne : digits * 10 ^ k ≠ 0 := (Nat.mul_pos hpos hpow).ne'
    rw [ofDecimal_eq_ofRatio negative hne, ofDecimal_eq_ofRatio negative hpos.ne']
    refine ofRatio_congr negative (Nat.pow_pos (by decide)) (Nat.pow_pos (by decide)) ?_
    have hexp : k + e.toNat + (-(e + k)).toNat = (e + k).toNat + (-e).toNat := by omega
    simp only [Nat.pow_eq]
    calc digits * 10 ^ k * 10 ^ e.toNat * 10 ^ (-(e + k)).toNat
        = digits * 10 ^ (k + e.toNat + (-(e + k)).toNat) := by
          rw [Nat.pow_add, Nat.pow_add]; ring
      _ = digits * 10 ^ (e + k).toNat * 10 ^ (-e).toNat := by
          rw [hexp, Nat.pow_add]; ring

/-- The exact decimal of a number reads back as the number. -/
theorem ofDecimal_exactDecimal (hcanonical : Canonical m e) (hm : m ≠ 0) :
    ofDecimal false (exactDecimal m e).1 (exactDecimal m e).2 = .finite false m e hcanonical := by
  rw [exactDecimal]
  split
  · next h =>
      have hpos : 0 < m * Nat.pow 2 e.toNat := Nat.mul_pos (by omega) (Nat.pow_pos (by decide))
      rw [ofDecimal_eq_ofRatio false hpos.ne']
      refine ofRatio_of_eq false (Nat.mul_pos hpos (Nat.pow_pos (by decide)))
        (Nat.pow_pos (by decide)) hcanonical ?_
      have hpow : (2 : ℚ) ^ e = 2 ^ e.toNat := by
        rw [← zpow_natCast, Int.toNat_of_nonneg h]
      refine (decimal_ratio _ _).trans ?_
      rw [hpow]
      simp
  · next h =>
      have hpos : 0 < m * Nat.pow 5 (-e).toNat := Nat.mul_pos (by omega) (Nat.pow_pos (by decide))
      rw [ofDecimal_eq_ofRatio false hpos.ne']
      refine ofRatio_of_eq false (Nat.mul_pos hpos (Nat.pow_pos (by decide)))
        (Nat.pow_pos (by decide)) hcanonical ?_
      -- a half is five tenths
      have hpow : (5 : ℚ) ^ (-e).toNat * 10 ^ e = 2 ^ e := by
        rw [← zpow_natCast, Int.toNat_of_nonneg (by omega), zpow_neg, ← inv_zpow,
          ← mul_zpow]
        norm_num
      refine (decimal_ratio _ _).trans ?_
      simp only [Nat.pow_eq, Nat.cast_mul, Nat.cast_pow, Nat.cast_ofNat]
      rw [mul_assoc, hpow]

/-! ## The sign -/

/-- The number of the same size with this sign. -/
def withSign (negative : Bool) : Binary64 → Binary64
  | .nan => .nan
  | .infinite _ => .infinite negative
  | .finite _ m e h => .finite negative m e h

theorem pack_withSign (negative : Bool) (m : Nat) (e : Int) :
    pack negative m e = (pack false m e).withSign negative := by
  by_cases h : Canonical m e
  · rw [pack_of_canonical negative h, pack_of_canonical false h]
    rfl
  · rw [pack, pack, dif_neg h, dif_neg h]
    rfl

theorem ofRatio_withSign (negative : Bool) (num den : Nat) :
    ofRatio negative num den = (ofRatio false num den).withSign negative := by
  simp only [ofRatio, roundReduced]
  split
  · rfl
  · split <;> exact pack_withSign negative _ _

/-- The sign has no part in rounding. -/
theorem ofDecimal_withSign (negative : Bool) (digits : Nat) (e : Int) :
    ofDecimal negative digits e = (ofDecimal false digits e).withSign negative := by
  rcases Nat.eq_zero_or_pos digits with rfl | hpos
  · rfl
  · rw [ofDecimal_eq_ofRatio negative hpos.ne', ofDecimal_eq_ofRatio false hpos.ne']
    exact ofRatio_withSign negative _ _

end Gatehouse.Binary64
