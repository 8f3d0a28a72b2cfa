import Gatehouse.Json.Bytes
import Gatehouse.Json.Printer
import Gatehouse.Proofs.Octets

/-!
# Quoted texts read back

A text is written point by point and read point by point, so reading one point is all
there is to show. The exception is a surrogate pair: a first half takes a second half that
stands behind it with it, whether the two were one character or not. Texts never hold the
two halves next to each other, which is what `IsText` asks; so a first half that stands
alone is followed by something else, and that something is never written as a second half.

In ASCII, halves that do stand next to each other are written like the character that they
make, so what was written for them is what would have been written for that character.
-/

namespace Gatehouse.Json

/-- The first and the second half of a surrogate pair. -/
def IsHigh (n : Nat) : Prop := 0xd800 ≤ n ∧ n ≤ 0xdbff

def IsLow (n : Nat) : Prop := 0xdc00 ≤ n ∧ n ≤ 0xdfff

instance (n : Nat) : Decidable (IsHigh n) := inferInstanceAs (Decidable (_ ∧ _))

instance (n : Nat) : Decidable (IsLow n) := inferInstanceAs (Decidable (_ ∧ _))

/-- Code points of a text; no two of them are the halves of one pair. -/
def IsText : List Nat → Prop
  | [] => True
  | n :: rest =>
    n < 0x110000 ∧ ¬ (IsHigh n ∧ ∃ m ∈ rest.head?, IsLow m) ∧ IsText rest

instance decidableIsText : ∀ points : List Nat, Decidable (IsText points)
  | [] => .isTrue trivial
  | _ :: rest =>
    have := decidableIsText rest
    inferInstanceAs (Decidable (_ ∧ _ ∧ _))

/-- The ways in which a code point is written between quotes. -/
inductive Escape (n : Nat) : List Char → Prop
  | short {c : Char} (hc : c ≠ 'u') (h : ∀ rest, escape? (c :: rest) = some (n, rest)) :
      Escape n ['\\', c]
  | unit (h : n < 0x10000) : Escape n (unitEscape n)
  | pair (hlow : 0x10000 ≤ n) (hhigh : n < 0x110000) :
      Escape n (unitEscape (0xd800 + (n - 0x10000) / 0x400) ++
        unitEscape (0xdc00 + (n - 0x10000) % 0x400))
  | plain {c : Char} (hn : c.toNat = n) (hquote : c ≠ '"') (hslash : c ≠ '\\')
      (hcontrol : ¬ c.toNat < 0x20) : Escape n [c]

variable {asciiOnly : Bool} {n : Nat} {cs rest : List Char}

theorem escapeChar_escape (asciiOnly : Bool) (c : Char) :
    Escape c.toNat (escapeChar asciiOnly c) := by
  have hlt : c.toNat < 0x110000 := by
    rcases c.valid with h | h
    · exact Nat.lt_trans h (by decide)
    · exact h.2
  rw [escapeChar]
  split
  · next h => subst h; exact .short (by decide) fun rest => rfl
  split
  · next h => subst h; exact .short (by decide) fun rest => rfl
  split
  · next h => subst h; exact .short (by decide) fun rest => rfl
  split
  · next h => subst h; exact .short (by decide) fun rest => rfl
  split
  · next h => subst h; exact .short (by decide) fun rest => rfl
  split
  · next h => subst h; exact .short (by decide) fun rest => rfl
  split
  · next h => subst h; exact .short (by decide) fun rest => rfl
  split
  · next h => exact .unit (by omega)
  split
  · split
    · next h => exact .unit h
    · next h => exact .pair (by omega) hlt
  · next hquote hslash _ _ _ _ _ hcontrol _ => exact .plain rfl hquote hslash hcontrol

theorem escapePoint_escape (asciiOnly : Bool) (h : n < 0x110000) :
    Escape n (escapePoint asciiOnly n) := by
  rw [escapePoint]
  split
  · next hvalid =>
      have hescape := escapeChar_escape asciiOnly (Char.ofNat n)
      rwa [Text.toNat_ofNat hvalid] at hescape
  · next hvalid =>
      refine .unit ?_
      simp only [Nat.isValidChar] at hvalid
      omega

theorem Escape.length_pos (h : Escape n cs) : 0 < cs.length := by
  cases h <;> simp [unitEscape]

theorem hexUnit?_padded (h : n < 0x10000) (rest : List Char) :
    hexUnit? (Text.Hex.padded 4 n ++ rest) = some (n, rest) := by
  have hvalue : ∀ d < 16, Text.Hex.value? (Text.Hex.digit d) = some d := by decide
  simp only [Text.Hex.padded, List.nil_append, List.cons_append, hexUnit?,
    hvalue _ (Nat.mod_lt _ (by decide)), Option.bind_eq_bind, Option.bind_some]
  rw [Option.pure_def, Option.some.injEq, Prod.mk.injEq]
  exact ⟨by omega, rfl⟩

theorem lowSurrogate?_unitEscape (h : n < 0x10000) (rest : List Char) :
    lowSurrogate? (unitEscape n ++ rest) =
      if 0xdc00 ≤ n ∧ n ≤ 0xdfff then some (n, rest) else none := by
  simp only [unitEscape, List.cons_append, lowSurrogate?, hexUnit?_padded h,
    Option.bind_eq_bind, Option.bind_some]

/-- What stands next is no second half. -/
theorem Escape.lowSurrogate?_eq_none (h : Escape n cs) (hn : ¬ IsLow n) :
    lowSurrogate? (cs ++ rest) = none := by
  cases h with
  | short hc _ =>
      rw [lowSurrogate?.eq_def]
      split
      · next heq =>
          injection heq with _ heq
          injection heq with heq _
          exact absurd heq hc
      · rfl
  | unit h =>
      rw [lowSurrogate?_unitEscape h]
      exact if_neg hn
  | pair hlow hhigh =>
      rw [List.append_assoc, lowSurrogate?_unitEscape (by omega), if_neg (by omega)]
  | plain _ _ hslash _ =>
      rw [lowSurrogate?.eq_def]
      split
      · next heq =>
          injection heq with heq _
          exact absurd heq hslash
      · rfl

theorem escape?_unit (h : n < 0x10000) (hrest : IsHigh n → lowSurrogate? rest = none) :
    escape? ('u' :: (Text.Hex.padded 4 n ++ rest)) = some (n, rest) := by
  simp only [escape?, hexUnit?_padded h, Option.bind_eq_bind, Option.bind_some]
  split
  · next hhigh => rw [hrest hhigh]; rfl
  · rfl

theorem escape?_pair (high low : Nat) (hhigh : IsHigh high) (hlow : IsLow low)
    (rest : List Char) :
    escape? ('u' :: (Text.Hex.padded 4 high ++ (unitEscape low ++ rest))) =
      some (0x10000 + (high - 0xd800) * 0x400 + (low - 0xdc00), rest) := by
  obtain ⟨hhigh, hhigh'⟩ := hhigh
  obtain ⟨hlow, hlow'⟩ := hlow
  have hsecond := lowSurrogate?_unitEscape (n := low) (by omega) rest
  rw [if_pos ⟨hlow, hlow'⟩] at hsecond
  simp only [escape?, hexUnit?_padded (n := high) (by omega), Option.bind_eq_bind,
    Option.bind_some, hsecond, if_pos (⟨hhigh, hhigh'⟩ : 0xd800 ≤ high ∧ high ≤ 0xdbff)]
  rfl

/-- A code point is read as it was written. -/
theorem Escape.textBody? (h : Escape n cs) (fuel : Nat)
    (hrest : IsHigh n → lowSurrogate? rest = none) :
    textBody? (fuel + 1) (cs ++ rest) =
      (textBody? fuel rest).map fun read => (n :: read.1, read.2) := by
  have hescaped : ∀ tail, escape? tail = some (n, rest) →
      Json.textBody? (fuel + 1) ('\\' :: tail) =
        (Json.textBody? fuel rest).map fun read => (n :: read.1, read.2) := by
    intro tail htail
    rw [Json.textBody?, if_neg (by decide), if_pos rfl, htail]
    simp only [Option.bind_eq_bind, Option.bind_some]
    cases Json.textBody? fuel rest <;> rfl
  cases h with
  | short _ hread => exact hescaped _ (hread rest)
  | unit hn => exact hescaped _ (escape?_unit hn hrest)
  | pair hlow hhigh =>
      rw [List.append_assoc]
      have hread := escape?_pair (0xd800 + (n - 0x10000) / 0x400)
        (0xdc00 + (n - 0x10000) % 0x400) ⟨by omega, by omega⟩ ⟨by omega, by omega⟩ rest
      refine hescaped _ (hread.trans ?_)
      rw [Option.some.injEq, Prod.mk.injEq]
      exact ⟨by omega, rfl⟩
  | plain hn hquote hslash hcontrol =>
      rw [List.singleton_append, Json.textBody?, if_neg hquote, if_neg hslash, if_neg hcontrol, hn]
      cases Json.textBody? fuel rest <;> rfl

theorem lowSurrogate?_points {points : List Nat} (htext : IsText points)
    (hhead : ∀ m, points.head? = some m → ¬ IsLow m) :
    lowSurrogate? (points.flatMap (escapePoint asciiOnly) ++ '"' :: rest) = none := by
  cases points with
  | nil => rfl
  | cons m points =>
      rw [List.flatMap_cons, List.append_assoc]
      exact (escapePoint_escape asciiOnly htext.1).lowSurrogate?_eq_none (hhead m rfl)

/-- The code points of a text are read as they were written. -/
theorem textBody?_points {points : List Nat} (htext : IsText points) {fuel : Nat}
    (hfuel : points.length < fuel) :
    textBody? fuel (points.flatMap (escapePoint asciiOnly) ++ '"' :: rest) =
      some (points, rest) := by
  induction points generalizing fuel with
  | nil =>
      obtain ⟨fuel, rfl⟩ : ∃ k, fuel = k + 1 := ⟨fuel - 1, by rw [List.length_nil] at hfuel; omega⟩
      rw [List.flatMap_nil, List.nil_append, Json.textBody?, if_pos rfl]
  | cons n points ih =>
      obtain ⟨fuel, rfl⟩ : ∃ k, fuel = k + 1 := ⟨fuel - 1, by rw [List.length_cons] at hfuel; omega⟩
      obtain ⟨hn, hpair, htext⟩ := htext
      rw [List.flatMap_cons, List.append_assoc,
        (escapePoint_escape asciiOnly hn).textBody? fuel fun hhigh =>
          lowSurrogate?_points htext fun m hm hlow => hpair ⟨hhigh, m, hm, hlow⟩,
        ih htext (by rw [List.length_cons] at hfuel; omega)]
      rfl

theorem length_points_le {points : List Nat} (htext : IsText points) :
    points.length ≤ (points.flatMap (escapePoint asciiOnly)).length := by
  induction points with
  | nil => exact Nat.zero_le _
  | cons n points ih =>
      have hpos := (escapePoint_escape asciiOnly htext.1).length_pos
      have hle := ih htext.2.2
      rw [List.flatMap_cons, List.length_append, List.length_cons]
      omega

theorem quoted?_points {points : List Nat} (htext : IsText points) (rest : List Char) :
    quoted? (points.flatMap (escapePoint asciiOnly) ++ '"' :: rest) = some (points, rest) := by
  have hle : points.length ≤ (points.flatMap (escapePoint asciiOnly)).length :=
    length_points_le htext
  rw [quoted?]
  refine textBody?_points htext ?_
  rw [List.length_append]
  omega

/-! ## Halves that belong together -/

/-- Two halves are written like the character that they make together. -/
theorem escapePoint_pair {high low : Nat} (hhigh : IsHigh high) (hlow : IsLow low) :
    escapePoint true (0x10000 + (high - 0xd800) * 0x400 + (low - 0xdc00)) =
      escapePoint true high ++ escapePoint true low := by
  rw [IsHigh] at hhigh
  rw [IsLow] at hlow
  have hhalf : ∀ half, 0xd800 ≤ half → half ≤ 0xdfff →
      escapePoint true half = unitEscape half := by
    intro half hfirst hlast
    rw [escapePoint, if_neg]
    simp only [Nat.isValidChar]
    omega
  obtain ⟨n, hn⟩ : ∃ n, n = 0x10000 + (high - 0xd800) * 0x400 + (low - 0xdc00) := ⟨_, rfl⟩
  have hvalid : n.isValidChar := by
    simp only [Nat.isValidChar]
    omega
  have hpoint : (Char.ofNat n).toNat = n := Text.toNat_ofNat hvalid
  have hother : ∀ {d : Char}, d.toNat < 0x10000 → Char.ofNat n ≠ d := by
    rintro _ hd rfl
    omega
  rw [← hn, escapePoint, if_pos hvalid, escapeChar, if_neg (hother (by decide)),
    if_neg (hother (by decide)), if_neg (hother (by decide)), if_neg (hother (by decide)),
    if_neg (hother (by decide)), if_neg (hother (by decide)), if_neg (hother (by decide)), hpoint,
    if_neg (by omega), if_pos (by simp; omega), if_neg (by omega),
    hhalf high (by omega) (by omega), hhalf low (by omega) (by omega)]
  have hfirst : 0xd800 + (n - 0x10000) / 0x400 = high := by omega
  have hsecond : 0xdc00 + (n - 0x10000) % 0x400 = low := by omega
  simp only [hfirst, hsecond]

/-- Text in ASCII does not tell two halves from their character. -/
theorem escape_joinPairs (points : List Nat) :
    (joinPairs points).flatMap (escapePoint true) = points.flatMap (escapePoint true) := by
  induction points using joinPairs.induct with
  | case1 => rfl
  | case2 n => rfl
  | case3 high low rest hpair ih =>
      rw [joinPairs, if_pos hpair, List.flatMap_cons, ih, List.flatMap_cons, List.flatMap_cons,
        escapePoint_pair ⟨hpair.1, hpair.2.1⟩ hpair.2.2, List.append_assoc]
  | case4 high low rest hpair ih =>
      rw [joinPairs, if_neg hpair, List.flatMap_cons, ih]
      rfl

/-- Joining puts no second half in front where there was none. -/
theorem not_isLow_head_joinPairs {points : List Nat} (h : ∀ m ∈ points.head?, ¬ IsLow m) :
    ∀ m ∈ (joinPairs points).head?, ¬ IsLow m := by
  match points with
  | [] => exact h
  | [n] => exact h
  | high :: low :: rest =>
      rw [joinPairs]
      split
      · intro m hm hlow
        obtain rfl := Option.some.inj hm
        rw [IsLow] at hlow
        omega
      · intro m hm
        obtain rfl := Option.some.inj hm
        exact h high rfl

/-- Once they are joined no halves that belong together are left. -/
theorem isText_joinPairs {points : List Nat} (h : ∀ n ∈ points, n < 0x110000) :
    IsText (joinPairs points) := by
  induction points using joinPairs.induct with
  | case1 => trivial
  | case2 n =>
      refine ⟨h n List.mem_cons_self, ?_, trivial⟩
      rintro ⟨-, m, hm, -⟩
      cases hm
  | case3 high low rest hpair ih =>
      rw [joinPairs, if_pos hpair]
      refine ⟨by omega, ?_, ih fun n hn => h n (by simp [hn])⟩
      rintro ⟨hhigh, -⟩
      rw [IsHigh] at hhigh
      omega
  | case4 high low rest hpair ih =>
      rw [joinPairs, if_neg hpair]
      refine ⟨h high List.mem_cons_self, ?_, ih fun n hn => h n (List.mem_cons_of_mem _ hn)⟩
      rintro ⟨hhigh, m, hm, hm'⟩
      have hhead : ∀ n ∈ (low :: rest).head?, ¬ IsLow n := by
        rintro n ⟨⟩ hlow
        exact hpair ⟨hhigh.1, hhigh.2, hlow⟩
      exact not_isLow_head_joinPairs hhead m hm hm'

/-- Where no halves belong together nothing is joined. -/
theorem joinPairs_of_isText {points : List Nat} (h : IsText points) :
    joinPairs points = points := by
  induction points using joinPairs.induct with
  | case1 => rfl
  | case2 n => rfl
  | case3 high low rest hpair _ =>
      exact absurd ⟨⟨hpair.1, hpair.2.1⟩, low, rfl, hpair.2.2⟩ h.2.1
  | case4 high low rest hpair ih => rw [joinPairs, if_neg hpair, ih h.2.2]

/-! ## Texts of characters -/

theorem isText_of_valid {points : List Nat} (h : ∀ n ∈ points, n.isValidChar) : IsText points := by
  induction points with
  | nil => trivial
  | cons n points ih =>
      have hn := h n List.mem_cons_self
      refine ⟨?_, fun ⟨hhigh, _⟩ => ?_, ih fun m hm => h m (List.mem_cons_of_mem n hm)⟩
      · simp only [Nat.isValidChar] at hn
        omega
      · simp only [Nat.isValidChar, IsHigh] at hn hhigh
        omega

theorem valid_of_mem_points {s : String} {n : Nat} (h : n ∈ s.toList.map Char.toNat) :
    n.isValidChar := by
  obtain ⟨c, -, rfl⟩ := List.mem_map.mp h
  exact c.valid

theorem quote_append (asciiOnly : Bool) (s : String) (rest : List Char) :
    quote asciiOnly s ++ rest =
      '"' :: ((s.toList.map Char.toNat).flatMap (escapePoint asciiOnly) ++ '"' :: rest) := by
  have hpoint : ∀ c : Char, escapePoint asciiOnly c.toNat = escapeChar asciiOnly c := by
    intro c
    have hvalid : c.toNat.isValidChar := c.valid
    rw [escapePoint, if_pos hvalid, Char.ofNat_toNat]
  simp only [quote, List.flatMap_map, hpoint, List.cons_append, List.append_assoc,
    List.nil_append]

/-- The name of a member reads back, with the blanks behind its colon left over. -/
theorem memberName?_quote (name : String) {blanks : List Char} (rest : List Char) :
    memberName? (quote asciiOnly name ++ (':' :: blanks ++ rest)) =
      some (name, blanks ++ rest) := by
  have htext : IsText (name.toList.map Char.toNat) := isText_of_valid fun n => valid_of_mem_points
  have hpoint : ∀ c : Char, pointChar c.toNat = c := by
    intro c
    have hvalid : c.toNat.isValidChar := c.valid
    rw [pointChar, if_pos hvalid, Char.ofNat_toNat]
  have hname : textOfPoints (name.toList.map Char.toNat) = name := by
    rw [textOfPoints, List.map_map, List.map_congr_left (g := id), List.map_id,
      String.ofList_toList]
    exact fun c _ => hpoint c
  rw [quote_append, memberName?]
  simp only [quoted?_points htext, Option.bind_eq_bind, Option.bind_some, hname]
  rfl

theorem ofPoints_toNat (s : String) : ofPoints (s.toList.map Char.toNat) = .str s := by
  have hchars : (s.toList.map Char.toNat).map Char.ofNat = s.toList := by
    rw [List.map_map, List.map_congr_left (g := id), List.map_id]
    exact fun c _ => Char.ofNat_toNat c
  have hvalid : ((s.toList.map Char.toNat).all fun n => decide n.isValidChar) = true := by
    rw [List.all_eq_true]
    exact fun n hn => decide_eq_true (valid_of_mem_points hn)
  rw [ofPoints, if_pos hvalid, hchars, String.ofList_toList]

end Gatehouse.Json
