import Gatehouse.Json.Printer
import Gatehouse.Json.Reader
import Gatehouse.Proofs.Rounding

/-!
# Numbers read back as they were written

A whole number is written by its digits and read by their value, so nothing is lost as
long as there are not too many of them. A floating point number is written by the digits
of a decimal that rounds to it, with a point among them or an exponent behind them; the
reader takes the digits and the exponent apart again and rounds. What it rounds need not
be the decimal that was written, since zeros come and go on either side of the point, but
it is the same ratio, and rounding sees nothing else.

`EndsNumber` says what may stand behind a number: anything that would not be read as a
part of it.
-/

namespace Gatehouse

open Json (isDigit digitsValue)

namespace Json

variable {ds rest : List Char}

/-! ## Digits -/

theorem digitsValue_eq (ds : List Char) : digitsValue ds = Nat.ofDigitChars 10 ds 0 := by
  rw [digitsValue, IntegerText.ofDigits, List.foldl_map, Nat.ofDigitChars_eq_foldl]
  congr 1
  funext n c
  rw [Nat.mul_comm]
  rfl

theorem digitsValue_append (ds more : List Char) :
    digitsValue (ds ++ more) = digitsValue ds * 10 ^ more.length + digitsValue more := by
  rw [digitsValue_eq, Nat.ofDigitChars_append, Nat.ofDigitChars_eq_ofDigitChars_zero,
    Nat.mul_comm, digitsValue_eq, digitsValue_eq]

theorem digitsValue_zeros (k : Nat) : digitsValue (List.replicate k '0') = 0 := by
  rw [digitsValue_eq, Nat.ofDigitChars_replicate_zero, Nat.mul_zero]

theorem digitsValue_toDigits (n : Nat) : digitsValue (Nat.toDigits 10 n) = n := by
  rw [digitsValue_eq, Nat.ofDigitChars_ten_toDigits]

theorem isDigit_of_mem_toDigits {n : Nat} {c : Char} (h : c ∈ Nat.toDigits 10 n) :
    isDigit c = true :=
  Nat.isDigit_of_mem_toDigits (by decide) (by decide) h

theorem isDigit_of_mem_zeros {k : Nat} {c : Char} (h : c ∈ List.replicate k '0') :
    isDigit c = true := by
  rw [List.eq_of_mem_replicate h]
  rfl

theorem isDigit_of_mem_zero : ∀ c ∈ ['0'], isDigit c = true := by
  intro c hc
  rw [List.mem_singleton.mp hc]
  rfl

/-- The digits of a number that is not zero do not start with a zero. -/
theorem head?_toDigits {n : Nat} (hn : 0 < n) : (Nat.toDigits 10 n).head? ≠ some '0' := by
  induction n using Nat.strongRecOn with
  | ind n ih =>
      rw [Nat.toDigits_eq_if (by decide)]
      split
      · intro h
        injection h with h
        rw [Nat.digitChar_eq_zero] at h
        omega
      · rw [List.head?_append_of_ne_nil _ Nat.toDigits_ne_nil]
        exact ih (n / 10) (by omega) (by omega)

/-! ## The parts of a number -/

/-- What may stand behind a number. -/
def EndsNumber (rest : List Char) : Prop :=
  ∀ c, rest.head? = some c → isDigit c = false ∧ c ≠ '.' ∧ c ≠ 'e' ∧ c ≠ 'E'

/-- Digits are read up to the first character that is none. -/
theorem span_digits (hds : ∀ c ∈ ds, isDigit c = true)
    (hrest : ∀ c, rest.head? = some c → isDigit c = false) :
    (ds ++ rest).takeWhile isDigit = ds ∧ (ds ++ rest).dropWhile isDigit = rest := by
  rw [List.takeWhile_append_of_pos hds, List.dropWhile_append_of_pos hds]
  cases rest with
  | nil => exact ⟨List.append_nil ds, rfl⟩
  | cons c rest =>
      have hc := hrest c rfl
      rw [List.takeWhile_cons_of_neg (by rw [hc]; exact Bool.false_ne_true),
        List.dropWhile_cons_of_neg (by rw [hc]; exact Bool.false_ne_true)]
      exact ⟨List.append_nil ds, rfl⟩

theorem head_not_digit {c : Char} (hc : isDigit c = false) (rest : List Char) :
    ∀ d, (c :: rest).head? = some d → isDigit d = false := by
  intro d hd
  injection hd with hd
  rw [← hd, hc]

theorem exists_digit_head (hds : ∀ c ∈ ds, isDigit c = true) (hne : ds ≠ []) (rest : List Char) :
    ∃ c, (ds ++ rest).head? = some c ∧ isDigit c = true := by
  cases ds with
  | nil => exact absurd rfl hne
  | cons d ds => exact ⟨d, rfl, hds d List.mem_cons_self⟩

theorem wholePart?_digits (hds : ∀ c ∈ ds, isDigit c = true) (hne : ds ≠ [])
    (hhead : ds = ['0'] ∨ ds.head? ≠ some '0')
    (hrest : ∀ c, rest.head? = some c → isDigit c = false) :
    wholePart? (ds ++ rest) = some (ds, rest) := by
  rcases hhead with rfl | hhead
  · rfl
  obtain ⟨htake, hdrop⟩ := span_digits hds hrest
  have hempty : ds.isEmpty = false := by rwa [List.isEmpty_eq_false_iff]
  cases ds with
  | nil => exact absurd rfl hne
  | cons d ds =>
      have hd : d ≠ '0' := fun h => hhead (by rw [h]; rfl)
      rw [wholePart?.eq_def]
      split
      · next heq =>
          injection heq with heq
          exact absurd heq hd
      · simp only [htake, hdrop, hempty, Bool.false_eq_true, ↓reduceIte]

theorem fractionPart_point (hds : ∀ c ∈ ds, isDigit c = true) (hne : ds ≠ [])
    (hrest : ∀ c, rest.head? = some c → isDigit c = false) :
    fractionPart ('.' :: (ds ++ rest)) = (ds, rest) := by
  obtain ⟨htake, hdrop⟩ := span_digits hds hrest
  have hempty : ds.isEmpty = false := by rwa [List.isEmpty_eq_false_iff]
  simp only [fractionPart, htake, hdrop, hempty, Bool.false_eq_true, ↓reduceIte]

theorem fractionPart_none (hrest : rest.head? ≠ some '.') : fractionPart rest = ([], rest) := by
  rw [fractionPart.eq_def]
  split
  · exact absurd rfl hrest
  · rfl

theorem exponentPart_none (he : rest.head? ≠ some 'e') (hE : rest.head? ≠ some 'E') :
    exponentPart rest = (none, rest) := by
  cases rest with
  | nil => rfl
  | cons c rest =>
      have hne : c ≠ 'e' := fun h => he (by rw [h]; rfl)
      have hnE : c ≠ 'E' := fun h => hE (by rw [h]; rfl)
      simp only [exponentPart, hne, hnE, decide_false, Bool.or_self, Bool.false_eq_true,
        ↓reduceIte]

/-- An exponent is read as it was written. -/
theorem exponentPart_exponentText (k : Int)
    (hrest : ∀ c, rest.head? = some c → isDigit c = false) :
    exponentPart ('e' :: (Binary64.exponentText k ++ rest)) = (some k, rest) := by
  obtain ⟨digits, hdigits⟩ : ∃ digits, digits =
      List.replicate (2 - (Nat.toDigits 10 k.natAbs).length) '0' ++ Nat.toDigits 10 k.natAbs :=
    ⟨_, rfl⟩
  have hmem : ∀ c ∈ digits, isDigit c = true := by
    intro c hc
    rw [hdigits, List.mem_append] at hc
    rcases hc with hc | hc
    · exact isDigit_of_mem_zeros hc
    · exact isDigit_of_mem_toDigits hc
  have hempty : digits.isEmpty = false := by
    rw [List.isEmpty_eq_false_iff, hdigits]
    exact List.append_ne_nil_of_right_ne_nil _ Nat.toDigits_ne_nil
  have hvalue : digitsValue digits = k.natAbs := by
    rw [hdigits, digitsValue_append, digitsValue_zeros, digitsValue_toDigits, Nat.zero_mul,
      Nat.zero_add]
  obtain ⟨htake, hdrop⟩ := span_digits hmem hrest
  have htext : Binary64.exponentText k = (if k < 0 then '-' else '+') :: digits := by
    rw [hdigits]
    rfl
  rw [htext, List.cons_append]
  by_cases hk : k < 0
  · simp only [hk, ↓reduceIte, exponentPart, decide_true, Bool.true_or, IntegerText.splitSign,
      htake, hdrop, hempty, Bool.false_eq_true, hvalue]
    have hneg : -(k.natAbs : Int) = k := by omega
    rw [hneg]
  · simp only [hk, ↓reduceIte, exponentPart, decide_true, Bool.true_or, IntegerText.splitSign,
      htake, hdrop, hempty, Bool.false_eq_true, hvalue]
    have hpos : (k.natAbs : Int) = k := by omega
    rw [hpos]

/-- A number is read with its sign in front. -/
theorem number?_magnitude {body : List Char} {m : Magnitude} (negative : Bool)
    (hhead : ∃ c, body.head? = some c ∧ isDigit c = true)
    (hm : magnitude? (body ++ rest) = some (m, rest)) :
    number? .asNumber ((if negative then ['-'] else []) ++ body ++ rest) =
      (m.value? negative).map (·, rest) := by
  obtain ⟨c, hc, hdigit⟩ := hhead
  obtain ⟨body, rfl⟩ : ∃ tail, body = c :: tail := by
    cases body with
    | nil => cases hc
    | cons d tail =>
        injection hc with hc
        exact ⟨tail, by rw [hc]⟩
  have hsign : c ≠ '-' := by
    rintro rfl
    exact absurd hdigit (by decide)
  have hletter : c ≠ 'I' := by
    rintro rfl
    exact absurd hdigit (by decide)
  have hword : "-Infinity".toList = '-' :: 'I' :: "nfinity".toList := rfl
  cases negative with
  | true =>
      have hafter : afterWord? "-Infinity".toList ('-' :: (c :: body ++ rest)) = none := by
        rw [hword, afterWord?, if_pos rfl, List.cons_append, afterWord?, if_neg hletter.symm]
      rw [if_pos rfl, List.append_assoc, List.singleton_append, number?.eq_def, hafter]
      simp only [hm, Option.bind_eq_bind, Option.bind_some]
  | false =>
      have hafter : afterWord? "-Infinity".toList (c :: body ++ rest) = none := by
        rw [hword, List.cons_append, afterWord?, if_neg hsign.symm]
      rw [if_neg Bool.false_ne_true, List.nil_append, number?.eq_def, hafter]
      simp only
      split
      · next heq =>
          injection heq with heq
          exact absurd heq hsign
      · simp only [hm, Option.bind_eq_bind, Option.bind_some]

theorem number?_of_magnitude {body : List Char} {m : Magnitude} {v : Json} (negative : Bool)
    (hhead : ∃ c, body.head? = some c ∧ isDigit c = true)
    (hm : magnitude? (body ++ rest) = some (m, rest)) (hv : m.value? negative = some v) :
    number? .asNumber ((if negative then ['-'] else []) ++ body ++ rest) = some (v, rest) := by
  rw [number?_magnitude negative hhead hm, hv]
  rfl

/-! ## Whole numbers -/

theorem isShort_of_lt {n : Int} (h : n.natAbs < 10 ^ IntegerText.maxDigits) : isShort n = true :=
  decide_eq_true ((Nat.length_toDigits_le_iff (by decide) (by decide)).mpr h)

theorem toString_toList (n : Int) :
    (toString n).toList = (if n < 0 then ['-'] else []) ++ Nat.toDigits 10 n.natAbs := by
  cases n with
  | ofNat n =>
      have hsign : ¬ Int.ofNat n < 0 := by simp
      rw [if_neg hsign]
      exact Nat.toList_repr
  | negSucc n =>
      have hsign : Int.negSucc n < 0 := Int.negSucc_lt_zero n
      rw [if_pos hsign]
      simp [Int.toString_eq_repr, Int.repr]

theorem magnitude?_toDigits (n : Nat) (hrest : EndsNumber rest) :
    magnitude? (Nat.toDigits 10 n ++ rest) = some (⟨Nat.toDigits 10 n, [], none⟩, rest) := by
  have hhead : Nat.toDigits 10 n = ['0'] ∨ (Nat.toDigits 10 n).head? ≠ some '0' := by
    rcases Nat.eq_zero_or_pos n with rfl | hn
    · exact Or.inl (Nat.toDigits_zero 10)
    · exact Or.inr (head?_toDigits hn)
  have hwhole : wholePart? (Nat.toDigits 10 n ++ rest) = some (Nat.toDigits 10 n, rest) :=
    wholePart?_digits (fun c => isDigit_of_mem_toDigits) Nat.toDigits_ne_nil hhead
      fun c hc => (hrest c hc).1
  have hfraction : fractionPart rest = ([], rest) :=
    fractionPart_none fun h => (hrest _ h).2.1 rfl
  have hexponent : exponentPart rest = (none, rest) :=
    exponentPart_none (fun h => (hrest _ h).2.2.1 rfl) fun h => (hrest _ h).2.2.2 rfl
  simp only [magnitude?, hwhole, Option.bind_eq_bind, Option.bind_some, hfraction, hexponent]

theorem exists_toDigits_head (n : Nat) :
    ∃ c, (Nat.toDigits 10 n).head? = some c ∧ isDigit c = true := by
  have hhead := exists_digit_head (fun c => isDigit_of_mem_toDigits (n := n))
    Nat.toDigits_ne_nil []
  rwa [List.append_nil] at hhead

/-- A whole number is read up to its last digit, unless it has too many of them. -/
theorem number?_toString (n : Int) (hrest : EndsNumber rest) :
    number? .asNumber ((toString n).toList ++ rest) =
      (Magnitude.value? ⟨Nat.toDigits 10 n.natAbs, [], none⟩ (decide (n < 0))).map (·, rest) := by
  have hread := number?_magnitude (decide (n < 0)) (exists_toDigits_head n.natAbs)
    (magnitude?_toDigits n.natAbs hrest)
  rw [toString_toList]
  simpa only [decide_eq_true_eq] using hread

/-- A whole number reads back as it was written. -/
theorem number?_int {n : Int} (hshort : isShort n = true) (hrest : EndsNumber rest) :
    number? .asNumber ((toString n).toList ++ rest) = some (.int n, rest) := by
  have hvalue : Magnitude.value? ⟨Nat.toDigits 10 n.natAbs, [], none⟩ (decide (n < 0)) =
      some (.int n) := by
    have hlength : ¬ IntegerText.maxDigits < (Nat.toDigits 10 n.natAbs).length := by
      rw [isShort, decide_eq_true_eq] at hshort
      omega
    simp only [Magnitude.value?, List.isEmpty_nil, Option.isNone_none, Bool.and_self,
      ↓reduceIte, if_neg hlength, digitsValue_toDigits, decide_eq_true_eq]
    split
    · rw [Option.some.injEq, Json.int.injEq]; omega
    · rw [Option.some.injEq, Json.int.injEq]; omega
  rw [number?_toString n hrest, hvalue]
  rfl

/-! ## Floating point numbers -/

variable {fs : List Char} {place : Int}

theorem floatText_finite (negative : Bool) {m : Nat} {e : Int}
    (hcanonical : Binary64.Canonical m e) :
    floatText (.finite negative m e hcanonical) =
      (if negative then ['-'] else []) ++ Binary64.magnitudeText m e := by
  rw [floatText.eq_def]
  simp only
  rw [Binary64.text.eq_def]
  simp only [String.toList_ofList]

theorem magnitude?_point (hds : ∀ c ∈ ds, isDigit c = true) (hne : ds ≠ [])
    (hhead : ds = ['0'] ∨ ds.head? ≠ some '0') (hfs : ∀ c ∈ fs, isDigit c = true)
    (hfsne : fs ≠ []) (hrest : EndsNumber rest) :
    magnitude? (ds ++ '.' :: (fs ++ rest)) = some (⟨ds, fs, none⟩, rest) := by
  have hwhole := wholePart?_digits hds hne hhead (head_not_digit (c := '.') rfl (fs ++ rest))
  have hfraction := fractionPart_point hfs hfsne fun c hc => (hrest c hc).1
  have hexponent : exponentPart rest = (none, rest) :=
    exponentPart_none (fun h => (hrest _ h).2.2.1 rfl) fun h => (hrest _ h).2.2.2 rfl
  simp only [magnitude?, hwhole, Option.bind_eq_bind, Option.bind_some, hfraction, hexponent]

theorem magnitude?_exponent (k : Int) (hds : ∀ c ∈ ds, isDigit c = true) (hne : ds ≠ [])
    (hhead : ds.head? ≠ some '0') (hfs : ∀ c ∈ fs, isDigit c = true)
    (hrest : EndsNumber rest) :
    magnitude? (ds ++ ((if fs.isEmpty then [] else '.' :: fs) ++
      'e' :: (Binary64.exponentText k ++ rest))) = some (⟨ds, fs, some k⟩, rest) := by
  have hexponent := exponentPart_exponentText k fun c hc => (hrest c hc).1
  cases fs with
  | nil =>
      have hwhole := wholePart?_digits hds hne (Or.inr hhead)
        (head_not_digit (c := 'e') rfl (Binary64.exponentText k ++ rest))
      have hfraction : fractionPart ('e' :: (Binary64.exponentText k ++ rest)) =
          ([], 'e' :: (Binary64.exponentText k ++ rest)) := fractionPart_none (by simp)
      simp only [List.isEmpty_nil, ↓reduceIte, List.nil_append, magnitude?, hwhole,
        Option.bind_eq_bind, Option.bind_some, hfraction, hexponent]
  | cons f fs =>
      have hwhole := wholePart?_digits hds hne (Or.inr hhead) (head_not_digit (c := '.') rfl
        ((f :: fs) ++ 'e' :: (Binary64.exponentText k ++ rest)))
      have hfraction := fractionPart_point hfs (List.cons_ne_nil f fs)
        (head_not_digit (c := 'e') rfl (Binary64.exponentText k ++ rest))
      simp only [List.isEmpty_cons, Bool.false_eq_true, ↓reduceIte, magnitude?,
        List.cons_append] at hwhole hfraction ⊢
      simp only [hwhole, Option.bind_eq_bind, Option.bind_some, hfraction, hexponent]

theorem Magnitude.value?_float (m : Magnitude) (negative : Bool)
    (h : m.fraction ≠ [] ∨ m.exponent ≠ none) :
    m.value? negative = some (.float (Binary64.ofDecimal negative
      (digitsValue (m.whole ++ m.fraction)) (m.exponent.getD 0 - m.fraction.length))) := by
  have hcond : (m.fraction.isEmpty && m.exponent.isNone) = false := by
    rcases h with h | h
    · rw [List.isEmpty_eq_false_iff.mpr h, Bool.false_and]
    · cases hexp : m.exponent with
      | none => exact absurd hexp h
      | some k => rw [Option.isNone_some, Bool.and_false]
  rw [Magnitude.value?, hcond]
  rfl

/-- Digits with a point among them, or with zeros between them and the point, are read as
the digits with the power of ten that the place of the point gives them. -/
theorem number?_positional (negative : Bool) (hds : ∀ c ∈ ds, isDigit c = true) (hne : ds ≠ [])
    (hhead : ds.head? ≠ some '0') (hrest : EndsNumber rest) :
    number? .asNumber ((if negative then ['-'] else []) ++ Binary64.positional ds place ++ rest) =
      some (.float (Binary64.ofDecimal negative (digitsValue ds) (place - ds.length)), rest) := by
  by_cases hplace : place ≤ 0
  · obtain ⟨zeros, hzeros⟩ : ∃ zeros, zeros = List.replicate (-place).toNat '0' := ⟨_, rfl⟩
    have htext : Binary64.positional ds place = ['0'] ++ '.' :: (zeros ++ ds) := by
      rw [Binary64.positional, if_pos hplace, hzeros]
      rfl
    have hfs : ∀ c ∈ zeros ++ ds, isDigit c = true := by
      intro c hc
      rcases List.mem_append.mp hc with hc | hc
      · exact isDigit_of_mem_zeros (hzeros ▸ hc)
      · exact hds c hc
    have hfsne : zeros ++ ds ≠ [] := List.append_ne_nil_of_right_ne_nil _ hne
    have hmagnitude := magnitude?_point isDigit_of_mem_zero (List.cons_ne_nil _ _) (Or.inl rfl)
      hfs hfsne hrest
    have hvalue := Magnitude.value?_float ⟨['0'], zeros ++ ds, none⟩ negative (Or.inl hfsne)
    have hdigits : digitsValue (['0'] ++ (zeros ++ ds)) = digitsValue ds := by
      rw [hzeros, digitsValue_append, digitsValue_append, digitsValue_zeros]
      simp [digitsValue_eq, Nat.ofDigitChars_cons]
    have hexp : (0 : Int) - (zeros ++ ds).length = place - ds.length := by
      rw [List.length_append, hzeros, List.length_replicate]
      omega
    rw [hdigits, Option.getD_none, hexp] at hvalue
    rw [htext]
    refine number?_of_magnitude negative ⟨'0', rfl, rfl⟩ ?_ hvalue
    rw [List.append_assoc]
    exact hmagnitude
  · obtain ⟨k, hk⟩ : ∃ k : Nat, place = k := ⟨place.toNat, by omega⟩
    subst hk
    by_cases hlength : ds.length ≤ k
    · -- the point stands behind all digits, with zeros in between
      obtain ⟨zeros, hzeros⟩ : ∃ zeros, zeros = List.replicate (k - ds.length) '0' := ⟨_, rfl⟩
      have htext : Binary64.positional ds k = (ds ++ zeros) ++ '.' :: ['0'] := by
        rw [Binary64.positional, if_neg hplace, Int.toNat_natCast]
        simp only [List.take_of_length_le hlength, List.drop_of_length_le hlength, hzeros]
        rfl
      have hws : ∀ c ∈ ds ++ zeros, isDigit c = true := by
        intro c hc
        rcases List.mem_append.mp hc with hc | hc
        · exact hds c hc
        · exact isDigit_of_mem_zeros (hzeros ▸ hc)
      have hwsne : ds ++ zeros ≠ [] := List.append_ne_nil_of_left_ne_nil hne _
      have hwshead : (ds ++ zeros).head? ≠ some '0' := by
        rwa [List.head?_append_of_ne_nil _ hne]
      have hmagnitude := magnitude?_point hws hwsne (Or.inr hwshead) isDigit_of_mem_zero
        (List.cons_ne_nil _ _) hrest
      have hvalue := Magnitude.value?_float ⟨ds ++ zeros, ['0'], none⟩ negative
        (Or.inl (List.cons_ne_nil _ _))
      have hdigits : digitsValue (ds ++ zeros ++ ['0']) =
          digitsValue ds * 10 ^ (k - ds.length + 1) := by
        rw [hzeros, digitsValue_append, digitsValue_append, digitsValue_zeros]
        simp [digitsValue_eq, Nat.ofDigitChars_cons, Nat.pow_succ, Nat.mul_assoc]
      have hexp : (0 : Int) - (['0'] : List Char).length + (k - ds.length + 1 : Nat) =
          k - ds.length := by
        rw [List.length_singleton]
        omega
      rw [hdigits, Option.getD_none, Binary64.ofDecimal_shift, hexp] at hvalue
      rw [htext]
      refine number?_of_magnitude negative (exists_digit_head hws hwsne _) ?_ hvalue
      rw [List.append_assoc]
      exact hmagnitude
    · -- the point stands among the digits
      have htext : Binary64.positional ds k = ds.take k ++ '.' :: ds.drop k := by
        have hzeros : k - ds.length = 0 := by omega
        have hdrop : (ds.drop k).isEmpty = false := by
          rw [List.isEmpty_eq_false_iff, ne_eq, List.drop_eq_nil_iff]
          omega
        rw [Binary64.positional, if_neg hplace, Int.toNat_natCast]
        simp only [hzeros, List.replicate_zero, List.append_nil, hdrop, Bool.false_eq_true,
          ↓reduceIte]
      have hws : ∀ c ∈ ds.take k, isDigit c = true := fun c hc => hds c (List.mem_of_mem_take hc)
      have hfs : ∀ c ∈ ds.drop k, isDigit c = true := fun c hc => hds c (List.mem_of_mem_drop hc)
      have hwsne : ds.take k ≠ [] := fun h => by
        rcases List.take_eq_nil_iff.mp h with h | h
        · omega
        · exact hne h
      have hfsne : ds.drop k ≠ [] := by
        rw [ne_eq, List.drop_eq_nil_iff]
        omega
      have hwshead : (ds.take k).head? ≠ some '0' := by
        rw [List.head?_take, if_neg (by omega)]
        exact hhead
      have hmagnitude := magnitude?_point hws hwsne (Or.inr hwshead) hfs hfsne hrest
      have hvalue := Magnitude.value?_float ⟨ds.take k, ds.drop k, none⟩ negative (Or.inl hfsne)
      have hexp : (0 : Int) - (ds.drop k).length = k - ds.length := by
        rw [List.length_drop]
        omega
      rw [List.take_append_drop, Option.getD_none, hexp] at hvalue
      rw [htext]
      refine number?_of_magnitude negative (exists_digit_head hws hwsne _) ?_ hvalue
      rw [List.append_assoc]
      exact hmagnitude

/-- One digit, the others behind a point, and an exponent. -/
theorem number?_scientific (negative : Bool) (hds : ∀ c ∈ ds, isDigit c = true) (hne : ds ≠ [])
    (hhead : ds.head? ≠ some '0') (hrest : EndsNumber rest) :
    number? .asNumber ((if negative then ['-'] else []) ++
        (ds.take 1 ++ (if (ds.drop 1).isEmpty then [] else '.' :: ds.drop 1) ++
          'e' :: Binary64.exponentText (place - 1)) ++ rest) =
      some (.float (Binary64.ofDecimal negative (digitsValue ds) (place - ds.length)), rest) := by
  have hws : ∀ c ∈ ds.take 1, isDigit c = true := fun c hc => hds c (List.mem_of_mem_take hc)
  have hfs : ∀ c ∈ ds.drop 1, isDigit c = true := fun c hc => hds c (List.mem_of_mem_drop hc)
  have hlength : 0 < ds.length := List.length_pos_iff.mpr hne
  have hwsne : ds.take 1 ≠ [] := fun h => by
    rcases List.take_eq_nil_iff.mp h with h | h
    · exact Nat.one_ne_zero h
    · exact hne h
  have hwshead : (ds.take 1).head? ≠ some '0' := by
    rw [List.head?_take, if_neg Nat.one_ne_zero]
    exact hhead
  have hmagnitude := magnitude?_exponent (place - 1) hws hwsne hwshead hfs hrest
  have hvalue := Magnitude.value?_float ⟨ds.take 1, ds.drop 1, some (place - 1)⟩ negative
    (Or.inr (by simp))
  have hexp : place - 1 - ((ds.drop 1).length : Int) = place - ds.length := by
    rw [List.length_drop]
    omega
  rw [List.take_append_drop, Option.getD_some, hexp] at hvalue
  refine number?_of_magnitude negative ?_ ?_ hvalue
  · rw [List.append_assoc]
    exact exists_digit_head hws hwsne _
  · rw [List.append_assoc, List.append_assoc, List.cons_append]
    exact hmagnitude

end Json

namespace Binary64

variable {m : Nat} {e : Int}

theorem neighbour?_reads {x : Binary64} {num den c : Nat} (h : neighbour? x num den e = some c) :
    ofDecimal false c e = x := by
  simp only [neighbour?] at h
  have hreads := List.find?_some h
  rwa [decide_eq_true_eq] at hreads

/-- The shortest decimal rounds to the number it is written for. -/
theorem ofDecimal_shortest (hcanonical : Canonical m e) (hm : m ≠ 0) :
    ofDecimal false (shortest m e).1 (shortest m e).2 = .finite false m e hcanonical := by
  simp only [shortest]
  generalize hfound : List.findSome? _ (List.range 17) = found
  cases found with
  | none => exact ofDecimal_exactDecimal hcanonical hm
  | some p =>
      obtain ⟨place, -, hplace⟩ := List.exists_of_findSome?_eq_some hfound
      obtain ⟨c, hc, rfl⟩ := Option.map_eq_some_iff.mp hplace
      rw [Option.getD_some, ← pack_of_canonical false hcanonical]
      exact neighbour?_reads hc

theorem shortest_ne_zero (hcanonical : Canonical m e) (hm : m ≠ 0) : (shortest m e).1 ≠ 0 := by
  intro hzero
  have hread := ofDecimal_shortest hcanonical hm
  rw [hzero] at hread
  injection hread with _ hm'
  exact hm hm'.symm

/-- Trimming takes zeros from the end of the digits. -/
theorem exists_zeros (digits : List Char) :
    ∃ k, digits = trimZeros digits ++ List.replicate k '0' := by
  refine ⟨(digits.reverse.takeWhile (· == '0')).length, ?_⟩
  have hzeros : digits.reverse.takeWhile (· == '0') =
      List.replicate (digits.reverse.takeWhile (· == '0')).length '0' := by
    rw [List.eq_replicate_iff]
    refine ⟨rfl, fun c hc => ?_⟩
    have hall := List.all_eq_true.mp (List.all_takeWhile (p := (· == '0')) (l := digits.reverse))
    exact beq_iff_eq.mp (hall c hc)
  rw [trimZeros, ← List.reverse_replicate, ← hzeros, ← List.reverse_append,
    List.takeWhile_append_dropWhile, List.reverse_reverse]

theorem mem_of_mem_trimZeros {digits : List Char} {c : Char} (h : c ∈ trimZeros digits) :
    c ∈ digits := by
  obtain ⟨k, hk⟩ := exists_zeros digits
  rw [hk]
  exact List.mem_append_left _ h

theorem trimZeros_toDigits {c : Nat} (hc : c ≠ 0) :
    (∀ d ∈ trimZeros (Nat.toDigits 10 c), Json.isDigit d = true) ∧
      trimZeros (Nat.toDigits 10 c) ≠ [] ∧
      (trimZeros (Nat.toDigits 10 c)).head? ≠ some '0' := by
  obtain ⟨k, hk⟩ := exists_zeros (Nat.toDigits 10 c)
  have hne : trimZeros (Nat.toDigits 10 c) ≠ [] := by
    intro hnil
    have hvalue := Json.digitsValue_toDigits c
    rw [hk, hnil, List.nil_append, Json.digitsValue_zeros] at hvalue
    exact hc hvalue.symm
  refine ⟨fun d hd => Json.isDigit_of_mem_toDigits (mem_of_mem_trimZeros hd), hne, ?_⟩
  · have hhead := Json.head?_toDigits (n := c) (by omega)
    rwa [hk, List.head?_append_of_ne_nil _ hne] at hhead

/-- A finite number reads back as it was written. -/
theorem number?_magnitudeText (negative : Bool) (hcanonical : Canonical m e) {rest : List Char}
    (hrest : Json.EndsNumber rest) :
    Json.number? .asNumber ((if negative then ['-'] else []) ++ magnitudeText m e ++ rest) =
      some (.float (.finite negative m e hcanonical), rest) := by
  by_cases hm : m = 0
  · subst hm
    obtain rfl : e = -1074 := by
      rcases hcanonical.2.2.2 with h | h
      · exact absurd h (by decide)
      · exact h
    have hmagnitude : Json.magnitude? (['0', '.', '0'] ++ rest) =
        some (⟨['0'], ['0'], none⟩, rest) :=
      Json.magnitude?_point Json.isDigit_of_mem_zero (List.cons_ne_nil _ _) (Or.inl rfl)
        Json.isDigit_of_mem_zero (List.cons_ne_nil _ _) hrest
    exact Json.number?_of_magnitude negative ⟨'0', rfl, rfl⟩ hmagnitude rfl
  · obtain ⟨hds, hne, hhead⟩ := trimZeros_toDigits (shortest_ne_zero hcanonical hm)
    obtain ⟨k, hk⟩ := exists_zeros (Nat.toDigits 10 (shortest m e).1)
    obtain ⟨place, hplace⟩ : ∃ place : Int,
        place = (Nat.toDigits 10 (shortest m e).1).length + (shortest m e).2 := ⟨_, rfl⟩
    -- the digits that were trimmed are back in the power of ten
    have hvalue : ofDecimal negative
        (Json.digitsValue (trimZeros (Nat.toDigits 10 (shortest m e).1)))
        (place - (trimZeros (Nat.toDigits 10 (shortest m e).1)).length) =
          .finite negative m e hcanonical := by
      have hexp : place - (trimZeros (Nat.toDigits 10 (shortest m e).1)).length =
          (shortest m e).2 + k := by
        have hlength := congrArg List.length hk
        rw [List.length_append, List.length_replicate] at hlength
        omega
      have hdigits := Json.digitsValue_toDigits (shortest m e).1
      rw [hk, Json.digitsValue_append, Json.digitsValue_zeros, Nat.add_zero,
        List.length_replicate] at hdigits
      rw [hexp, ← ofDecimal_shift, hdigits, ofDecimal_withSign, ofDecimal_shortest hcanonical hm]
      rfl
    rw [← hvalue]
    have htext : magnitudeText m e =
        if -4 < place ∧ place ≤ 16 then
          positional (trimZeros (Nat.toDigits 10 (shortest m e).1)) place
        else
          (trimZeros (Nat.toDigits 10 (shortest m e).1)).take 1 ++
            (if ((trimZeros (Nat.toDigits 10 (shortest m e).1)).drop 1).isEmpty then []
              else '.' :: (trimZeros (Nat.toDigits 10 (shortest m e).1)).drop 1) ++
            'e' :: exponentText (place - 1) := by
      rw [magnitudeText, if_neg hm, hplace]
    rw [htext]
    by_cases hrange : -4 < place ∧ place ≤ 16
    · rw [if_pos hrange]
      exact Json.number?_positional negative hds hne hhead hrest
    · rw [if_neg hrange]
      exact Json.number?_scientific negative hds hne hhead hrest

end Binary64

end Gatehouse
