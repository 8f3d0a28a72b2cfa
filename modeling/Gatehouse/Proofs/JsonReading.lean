import Gatehouse.Outcome
import Gatehouse.Proofs.JsonText

/-!
# What reading JSON gives

Reading gives restorable values only, so what was read once is never changed by being
written and read again. The induction is on the fuel of the reader, over the three
functions at once. A text that is read has no two halves of one pair next to each other,
because the first of them would have taken the second: that is an induction of its own, in
which a text also tells whether it starts with a second half.
-/

namespace Gatehouse.Json

/-! ## Texts -/

theorem Hex.value?_lt {c : Char} {n : Nat} (h : Text.Hex.value? c = some n) : n < 16 := by
  have hzero : '9'.toNat = 57 := by decide
  have hsmall : 'f'.toNat = 102 := by decide
  have hcapital : 'F'.toNat = 70 := by decide
  have hle : ∀ {d : Char}, c ≤ d → c.toNat ≤ d.toNat := by
    intro d hd
    rwa [Char.le_def, UInt32.le_iff_toNat_le] at hd
  rw [Text.Hex.value?] at h
  split at h
  · next hc =>
      have hbound := hle hc.2
      injection h with h
      omega
  split at h
  · next hc =>
      have hbound := hle hc.2
      injection h with h
      omega
  split at h
  · next hc =>
      have hbound := hle hc.2
      injection h with h
      omega
  · cases h

theorem hexUnit?_lt {cs rest : List Char} {n : Nat} (h : hexUnit? cs = some (n, rest)) :
    n < 0x10000 := by
  rw [hexUnit?.eq_def] at h
  split at h
  · simp only [Option.bind_eq_bind, Option.bind_eq_some_iff, Option.pure_def,
      Option.some.injEq, Prod.mk.injEq] at h
    obtain ⟨a, ha, b, hb, c, hc, d, hd, rfl, -⟩ := h
    have ha := Hex.value?_lt ha
    have hb := Hex.value?_lt hb
    have hc := Hex.value?_lt hc
    have hd := Hex.value?_lt hd
    omega
  · cases h

theorem lowSurrogate?_isLow {cs rest : List Char} {n : Nat}
    (h : lowSurrogate? cs = some (n, rest)) : IsLow n := by
  rw [lowSurrogate?.eq_def] at h
  split at h
  · simp only [Option.bind_eq_bind, Option.bind_eq_some_iff] at h
    obtain ⟨⟨m, behind⟩, -, h⟩ := h
    split at h
    · next hlow =>
        injection h with h
        injection h with h
        rw [← h]
        exact hlow
    · cases h
  · cases h

/-- An escape of one character behind the backslash. -/
theorem escape?_short {c : Char} {tail rest : List Char} {n : Nat} (hc : c ≠ 'u')
    (h : escape? (c :: tail) = some (n, rest)) : n < 0x80 ∧ tail = rest := by
  have hpair : ∀ {k : Nat}, k < 0x80 → some (k, tail) = some (n, rest) →
      n < 0x80 ∧ tail = rest := by
    intro k hk heq
    injection heq with heq
    injection heq with hn hrest
    exact ⟨hn ▸ hk, hrest⟩
  rw [escape?.eq_def] at h
  split at h
  · next heq =>
      injection heq with heq
      exact absurd heq hc
  · next d more _ heq =>
      injection heq with hd hmore
      subst hd hmore
      split at h
      · next hd =>
          simp only [Bool.or_eq_true, decide_eq_true_eq] at hd
          rcases hd with (rfl | rfl) | rfl
          · exact hpair (by decide) h
          · exact hpair (by decide) h
          · exact hpair (by decide) h
      split at h
      · exact hpair (by decide) h
      split at h
      · exact hpair (by decide) h
      split at h
      · exact hpair (by decide) h
      split at h
      · exact hpair (by decide) h
      split at h
      · exact hpair (by decide) h
      · cases h
  · next heq => cases heq

/-- What an escape stands for: a first half only if no second half follows, and a second
half only if it could have been taken as one. -/
theorem escape?_spec {cs rest : List Char} {n : Nat} (h : escape? cs = some (n, rest)) :
    n < 0x110000 ∧ (IsHigh n → lowSurrogate? rest = none) ∧
      (lowSurrogate? ('\\' :: cs) = none → ¬ IsLow n) := by
  cases cs with
  | nil => cases h
  | cons c tail =>
      by_cases hc : c = 'u'
      · subst hc
        rw [escape?] at h
        simp only [Option.bind_eq_bind, Option.bind_eq_some_iff, Prod.exists] at h
        obtain ⟨high, behind, hhex, h⟩ := h
        have hlt := hexUnit?_lt hhex
        have hlow : lowSurrogate? ('\\' :: 'u' :: tail) =
            if 0xdc00 ≤ high ∧ high ≤ 0xdfff then some (high, behind) else none := by
          simp only [lowSurrogate?, hhex, Option.bind_eq_bind, Option.bind_some]
        split at h
        · next hrange =>
            split at h
            · next low after hsecond =>
                have hbounds := lowSurrogate?_isLow hsecond
                injection h with h
                injection h with h _
                rw [IsLow] at hbounds
                refine ⟨by omega, fun hhigh => ?_, fun _ hlow => ?_⟩
                · rw [IsHigh] at hhigh
                  omega
                · rw [IsLow] at hlow
                  omega
            · next hnone =>
                injection h with h
                injection h with h hrest
                refine ⟨by omega, fun _ => by rw [← hrest, hnone], fun _ hlow => ?_⟩
                rw [IsLow] at hlow
                omega
        · next hrange =>
            injection h with h
            injection h with h hrest
            refine ⟨by omega, fun hhigh => ?_, fun hnone hsecond => ?_⟩
            · rw [IsHigh] at hhigh
              omega
            · rw [IsLow] at hsecond
              rw [hlow, if_pos (by omega)] at hnone
              cases hnone
      · obtain ⟨hlt, -⟩ := escape?_short hc h
        refine ⟨by omega, fun hhigh => ?_, fun _ hlow => ?_⟩
        · rw [IsHigh] at hhigh
          omega
        · rw [IsLow] at hlow
          omega

theorem isText_of_textBody? {fuel : Nat} {cs rest : List Char} {points : List Nat}
    (h : textBody? fuel cs = some (points, rest)) :
    IsText points ∧ (lowSurrogate? cs = none → ∀ m ∈ points.head?, ¬ IsLow m) := by
  induction fuel generalizing cs points rest with
  | zero => cases h
  | succ fuel ih =>
      cases cs with
      | nil => cases h
      | cons c cs =>
          rw [textBody?] at h
          split at h
          · injection h with h
            injection h with h _
            subst h
            refine ⟨trivial, fun _ m hm => ?_⟩
            cases hm
          split at h
          · next hslash =>
              subst hslash
              simp only [Option.bind_eq_bind, Option.bind_eq_some_iff, Option.pure_def,
                Option.some.injEq, Prod.mk.injEq, Prod.exists] at h
              obtain ⟨d, behind, hescape, ds, after, hbody, rfl, -⟩ := h
              obtain ⟨hlt, hhigh, hlow⟩ := escape?_spec hescape
              obtain ⟨htext, hhead⟩ := ih hbody
              refine ⟨⟨hlt, ?_, htext⟩, ?_⟩
              · rintro ⟨hd, m, hm, hm'⟩
                exact hhead (hhigh hd) m hm hm'
              · rintro hnone m ⟨⟩
                exact hlow hnone
          split at h
          · cases h
          · simp only [Option.bind_eq_bind, Option.bind_eq_some_iff, Option.pure_def,
              Option.some.injEq, Prod.mk.injEq, Prod.exists] at h
            obtain ⟨ds, after, hbody, rfl, -⟩ := h
            obtain ⟨htext, -⟩ := ih hbody
            have hvalid : c.toNat.isValidChar := c.valid
            simp only [Nat.isValidChar] at hvalid
            refine ⟨⟨by omega, ?_, htext⟩, ?_⟩
            · rintro ⟨hd, -⟩
              rw [IsHigh] at hd
              omega
            · rintro - m ⟨⟩ hlow
              rw [IsLow] at hlow
              omega

theorem restorable_ofPoints {points : List Nat} (h : IsText points) (nesting : Nat) :
    Restorable nesting (ofPoints points) :=
  (isTextValue_ofPoints h).restorable nesting

/-! ## Numbers -/

theorem digitsValue_lt {ds : List Char} (h : ∀ c ∈ ds, isDigit c = true) :
    digitsValue ds < 10 ^ ds.length := by
  induction ds with
  | nil => decide
  | cons c ds ih =>
      have hds := ih fun d hd => h d (List.mem_cons_of_mem c hd)
      have hc := h c List.mem_cons_self
      have hfirst : digitsValue [c] < 10 := by
        have hnine : '9'.toNat = 57 := by decide
        simp only [isDigit, Bool.and_eq_true, decide_eq_true_eq, Char.le_def,
          UInt32.le_iff_toNat_le] at hc
        have hvalue : digitsValue [c] = c.toNat - 48 := by simp [digitsValue, IntegerText.ofDigits]
        simp only [Char.toNat] at hnine hvalue
        omega
      have hcons := digitsValue_append [c] ds
      rw [List.singleton_append] at hcons
      have hmul : digitsValue [c] * 10 ^ ds.length ≤ 9 * 10 ^ ds.length :=
        Nat.mul_le_mul_right _ (by omega)
      rw [hcons, List.length_cons, Nat.pow_succ]
      omega

theorem isDigit_of_wholePart? {cs ds rest : List Char} (h : wholePart? cs = some (ds, rest)) :
    ∀ c ∈ ds, isDigit c = true := by
  rw [wholePart?.eq_def] at h
  split at h
  · injection h with h
    injection h with h _
    rw [← h]
    exact isDigit_of_mem_zero
  · simp only at h
    split at h
    · cases h
    · injection h with h
      injection h with h _
      rw [← h]
      exact fun c hc => List.all_eq_true.mp List.all_takeWhile c hc

theorem restorable_of_value? {m : Magnitude} (hwhole : ∀ c ∈ m.whole, isDigit c = true)
    {negative : Bool} {v : Json} (h : m.value? negative = some v) (nesting : Nat) :
    Restorable nesting v := by
  rw [Magnitude.value?] at h
  split at h
  · split at h
    · cases h
    · next hlength =>
        injection h with h
        subst h
        refine .int (isShort_of_lt ?_)
        have hlt := digitsValue_lt hwhole
        have hpow : 10 ^ m.whole.length ≤ 10 ^ IntegerText.maxDigits :=
          Nat.pow_le_pow_right (by decide) (by omega)
        split
        · rw [Int.natAbs_neg, Int.natAbs_natCast]
          omega
        · rw [Int.natAbs_natCast]
          omega
  · injection h with h
    subst h
    exact .float _

theorem restorable_of_number? {cs rest : List Char} {v : Json}
    (h : number? .asNumber cs = some (v, rest)) (nesting : Nat) : Restorable nesting v := by
  rw [number?.eq_def] at h
  split at h
  · injection h with h
    injection h with h _
    rw [← h]
    exact .float _
  · simp only [Option.bind_eq_bind, Option.bind_eq_some_iff, Prod.exists] at h
    obtain ⟨m, behind, hm, h⟩ := h
    obtain ⟨v', hvalue, hpair⟩ := Option.map_eq_some_iff.mp h
    injection hpair with hv _
    subst hv
    refine restorable_of_value? ?_ hvalue nesting
    simp only [magnitude?, Option.bind_eq_bind, Option.bind_eq_some_iff, Option.some.injEq,
      Prod.mk.injEq, Prod.exists] at hm
    obtain ⟨whole, after, hwhole, rfl, -⟩ := hm
    exact isDigit_of_wholePart? hwhole

/-! ## Values -/

theorem expect_eq_ok {α : Type} {found? : Option α} {a : α} (h : expect found? = .ok a) :
    found? = some a := by
  cases found? with
  | none => cases h
  | some b =>
      injection h with h
      rw [h]

theorem eq_of_afterWord? {word cs rest : List Char} {v w : Json}
    (h : expect ((afterWord? word cs).map (w, ·)) = .ok (v, rest)) : v = w := by
  obtain ⟨behind, -, hpair⟩ := Option.map_eq_some_iff.mp (expect_eq_ok h)
  injection hpair with hv _
  exact hv.symm

/-- What is read is restorable, whatever the text. -/
theorem restorable_of_fuel (fuel : Nat) :
    (∀ nesting cs v rest, value .asNumber fuel nesting cs = .ok (v, rest) →
      Restorable nesting v) ∧
    (∀ nesting cs vs rest, items .asNumber fuel nesting cs = .ok (vs, rest) →
      ∀ v ∈ vs, Restorable nesting v) ∧
    ∀ nesting earlier cs ms rest, members .asNumber fuel nesting earlier cs = .ok (ms, rest) →
      (earlier.map (·.1)).Nodup → (∀ m ∈ earlier, Restorable nesting m.2) →
        (ms.map (·.1)).Nodup ∧ ∀ m ∈ ms, Restorable nesting m.2 := by
  induction fuel with
  | zero =>
      refine ⟨?_, ?_, ?_⟩
      · intro nesting cs v rest h
        cases h
      · intro nesting cs vs rest h
        cases h
      · intro nesting earlier cs ms rest h
        cases h
  | succ fuel ih =>
      obtain ⟨ihvalue, ihitems, ihmembers⟩ := ih
      refine ⟨?_, ?_, ?_⟩
      · intro nesting cs v rest h
        rw [value.eq_def] at h
        simp only at h
        split at h
        · obtain ⟨⟨points, behind⟩, hquoted, hpair⟩ := exists_of_map_eq_ok h
          injection hpair with hv _
          rw [← hv]
          have htext := isText_of_textBody? (expect_eq_ok hquoted)
          exact restorable_ofPoints htext.1 nesting
        · split at h
          · cases h
          · split at h
            · injection h with h
              injection h with h _
              rw [← h]
              exact .arr fun u hu => absurd hu List.not_mem_nil
            · obtain ⟨⟨vs, behind⟩, hitems, hpair⟩ := exists_of_map_eq_ok h
              injection hpair with hv _
              rw [← hv]
              exact .arr (ihitems _ _ _ _ hitems)
        · split at h
          · cases h
          · split at h
            · injection h with h
              injection h with h _
              rw [← h]
              exact .obj List.nodup_nil fun m hm => absurd hm List.not_mem_nil
            · obtain ⟨⟨ms, behind⟩, hmembers, hpair⟩ := exists_of_map_eq_ok h
              injection hpair with hv _
              rw [← hv]
              obtain ⟨hnames, hms⟩ := ihmembers _ _ _ _ _ hmembers List.nodup_nil
                fun m hm => absurd hm List.not_mem_nil
              exact .obj hnames hms
        · rw [eq_of_afterWord? h]
          exact .null
        · rw [eq_of_afterWord? h]
          exact .bool true
        · rw [eq_of_afterWord? h]
          exact .bool false
        · rw [eq_of_afterWord? h]
          exact .float _
        · rw [eq_of_afterWord? h]
          exact .float _
        · exact restorable_of_number? (expect_eq_ok h) nesting
      · intro nesting cs vs rest h
        rw [items] at h
        obtain ⟨⟨v, behind⟩, hvalue, h⟩ := exists_of_bind_eq_ok h
        simp only at h
        split at h
        · obtain ⟨⟨others, after⟩, hothers, h⟩ := exists_of_bind_eq_ok h
          injection h with h
          injection h with h _
          subst h
          intro u hu
          rcases List.mem_cons.mp hu with rfl | hu
          · exact ihvalue _ _ _ _ hvalue
          · exact ihitems _ _ _ _ hothers u hu
        · injection h with h
          injection h with h _
          subst h
          intro u hu
          rw [List.mem_singleton.mp hu]
          exact ihvalue _ _ _ _ hvalue
        · cases h
      · intro nesting earlier cs ms rest h hnames hearlier
        rw [members] at h
        obtain ⟨⟨name, behind⟩, hname, h⟩ := exists_of_bind_eq_ok h
        obtain ⟨⟨v, after⟩, hvalue, h⟩ := exists_of_bind_eq_ok h
        have hnames' : ((Assoc.put name v earlier).map (·.1)).Nodup :=
          Assoc.nodup_keys_put hnames
        have hearlier' : ∀ m ∈ Assoc.put name v earlier, Restorable nesting m.2 := by
          intro m hm
          rcases Assoc.mem_of_mem_put hm with rfl | hm
          · exact ihvalue _ _ _ _ hvalue
          · exact hearlier m hm
        simp only at h
        split at h
        · exact ihmembers _ _ _ _ _ h hnames' hearlier'
        · injection h with h
          injection h with h _
          subst h
          exact ⟨hnames', hearlier'⟩
        · cases h

/-- What a whole text is read as is restorable. -/
theorem restorable_of_read {nesting : Nat} {cs : List Char} {v : Json}
    (h : read .asNumber nesting cs = .ok v) : Restorable nesting v := by
  rw [read] at h
  obtain ⟨⟨w, rest⟩, hvalue, h⟩ := exists_of_bind_eq_ok h
  simp only at h
  split at h
  · injection h with h
    rw [← h]
    exact (restorable_of_fuel _).1 _ _ _ _ hvalue
  · cases h

end Gatehouse.Json
