import Gatehouse.Encoding.Dotted
import Gatehouse.Json.Bytes

/-!
# Text in bytes and back

Tokens and cookies hold JSON, base 64 and digests one inside the other. All of that is
ASCII, where a character is a byte and nothing is lost on the way from one to the other;
and base 64 gives back every byte that was put in.

The second half is an induction over groups of three bytes. Reading keeps a group of four
characters under way, so one group is read from its start to its end before the induction
goes on.
-/

namespace Gatehouse

/-! ## ASCII -/

theorem Text.toNat_ofNat {n : Nat} (h : n.isValidChar) : (Char.ofNat n).toNat = n := by
  rw [Char.ofNat, dif_pos h]
  rfl

theorem Text.toNat_ofNat_byte (b : UInt8) : (Char.ofNat b.toNat).toNat = b.toNat :=
  toNat_ofNat (Or.inl (Nat.lt_trans b.toNat_lt (by decide)))

/-- Whether all characters of a text are ASCII. -/
def Text.IsAscii (cs : List Char) : Prop := ∀ c ∈ cs, c.toNat < 0x80

namespace Text.Utf8

variable {cs : List Char}

theorem encodeChar_ascii {c : Char} (hc : c.toNat < 0x80) :
    encodeChar c = [UInt8.ofNat c.toNat] := by
  rw [encodeChar, if_pos hc]

theorem encode_ascii (h : IsAscii cs) : encode cs = cs.map fun c => UInt8.ofNat c.toNat := by
  induction cs with
  | nil => rfl
  | cons c cs ih =>
      rw [encode, List.flatMap_cons, encodeChar_ascii (h c List.mem_cons_self), List.map_cons,
        ← ih fun d hd => h d (List.mem_cons_of_mem c hd)]
      rfl

theorem toNat_ofNat_byte {c : Char} (hc : c.toNat < 0x80) :
    (UInt8.ofNat c.toNat).toNat = c.toNat :=
  UInt8.toNat_ofNat_of_lt' (Nat.lt_trans hc (by decide))

/-- The bytes of ASCII stand for the same characters one by one. -/
theorem map_char_encode (h : IsAscii cs) :
    (encode cs).map (fun b => Char.ofNat b.toNat) = cs := by
  rw [encode_ascii h, List.map_map, List.map_congr_left (g := id), List.map_id]
  intro c hc
  rw [Function.comp_apply, toNat_ofNat_byte (h c hc), Char.ofNat_toNat]
  rfl

theorem decode?_encode (h : IsAscii cs) : decode? (encode cs) = some cs := by
  induction cs with
  | nil => rfl
  | cons c cs ih =>
      have hc : c.toNat < 0x80 := h c List.mem_cons_self
      have hcs : decode? (encode cs) = some cs :=
        ih fun d hd => h d (List.mem_cons_of_mem c hd)
      have hstart : start (UInt8.ofNat c.toNat) = .character c := by
        rw [start, toNat_ofNat_byte hc, if_pos hc, Char.ofNat_toNat]
      have hencode : encode (c :: cs) = UInt8.ofNat c.toNat :: encode cs := by
        rw [encode, List.flatMap_cons, encodeChar_ascii hc]
        rfl
      rw [decode?] at hcs
      rw [hencode, decode?, scanFrom.eq_def]
      simp only [hstart, List.mapM_cons, id_eq, hcs]
      rfl

end Text.Utf8

/-! ## Base 64 -/

namespace Base64

variable {readable : Readable} {alphabet : Alphabet}

/-- Whether reading takes the characters of an alphabet. -/
def Takes (readable : Readable) : Alphabet → Prop
  | .plain => True
  | .urlSafe => readable = .either

theorem valueOf?_charOf (h : Takes readable alphabet) {n : Nat} (hn : n < 64) :
    valueOf? readable (charOf alphabet n) = some n := by
  have hplain : ∀ n < 64, ∀ readable ∈ [Readable.plain, .either],
      valueOf? readable (charOf .plain n) = some n := by decide
  have hurl : ∀ n < 64, valueOf? .either (charOf .urlSafe n) = some n := by decide
  cases alphabet with
  | plain => exact hplain n hn readable (by cases readable <;> decide)
  | urlSafe =>
      obtain rfl : readable = .either := h
      exact hurl n hn

/-- The characters of the two alphabets. -/
def IsDigit (c : Char) : Prop := (valueOf? .either c).isSome = true

instance (c : Char) : Decidable (IsDigit c) := inferInstanceAs (Decidable (_ = true))

theorem isDigit_charOf (alphabet : Alphabet) {n : Nat} (hn : n < 64) :
    IsDigit (charOf alphabet n) := by
  have htakes : Takes .either alphabet := by cases alphabet <;> trivial
  rw [IsDigit, valueOf?_charOf htakes hn]
  rfl

variable {bytes : List UInt8}

theorem isDigit_encodeBare (alphabet : Alphabet) (bytes : List UInt8) :
    ∀ c ∈ encodeBare alphabet bytes, IsDigit c := by
  have hdigit : ∀ (n : Nat) {k : Nat}, k = n % 64 → IsDigit (charOf alphabet k) :=
    fun n k hk => isDigit_charOf alphabet (hk ▸ Nat.mod_lt n (by decide))
  induction bytes using encodeBare.induct with
  | case1 => exact fun c hc => absurd hc List.not_mem_nil
  | case2 a =>
      have ha := a.toNat_lt
      simp only [encodeBare, List.mem_cons, List.not_mem_nil, or_false]
      rintro c (rfl | rfl)
      · exact isDigit_charOf alphabet (by omega)
      · exact isDigit_charOf alphabet (by omega)
  | case3 a b =>
      have ha := a.toNat_lt
      have hb := b.toNat_lt
      simp only [encodeBare, List.mem_cons, List.not_mem_nil, or_false]
      rintro c (rfl | rfl | rfl)
      · exact isDigit_charOf alphabet (by omega)
      · exact isDigit_charOf alphabet (by omega)
      · exact isDigit_charOf alphabet (by omega)
  | case4 a b c rest ih =>
      have ha := a.toNat_lt
      have hb := b.toNat_lt
      have hc := c.toNat_lt
      simp only [encodeBare, List.mem_cons]
      rintro d (rfl | rfl | rfl | rfl | hd)
      · exact isDigit_charOf alphabet (by omega)
      · exact isDigit_charOf alphabet (by omega)
      · exact isDigit_charOf alphabet (by omega)
      · exact isDigit_charOf alphabet (by omega)
      · exact ih d hd

theorem charOf_ne_mark (alphabet : Alphabet) {n : Nat} (hn : n < 64) : charOf alphabet n ≠ '=' := by
  have hplain : ∀ n < 64, charOf .plain n ≠ '=' := by decide
  have hurl : ∀ n < 64, charOf .urlSafe n ≠ '=' := by decide
  cases alphabet with
  | plain => exact hplain n hn
  | urlSafe => exact hurl n hn

section Digits

variable {n : Nat} (h : Takes readable alphabet) (hn : n < 64) (bits : Nat) (rest : List Char)

include h hn

theorem decodeFrom_first :
    decodeFrom readable ⟨0, 0, 0⟩ (charOf alphabet n :: rest) =
      decodeFrom readable ⟨1, n, 0⟩ rest := by
  simp only [decodeFrom, charOf_ne_mark alphabet hn, ↓reduceIte, valueOf?_charOf h hn]

theorem decodeFrom_second :
    decodeFrom readable ⟨1, bits, 0⟩ (charOf alphabet n :: rest) =
      (decodeFrom readable ⟨2, n % 16, 0⟩ rest).map (UInt8.ofNat (bits * 4 + n / 16) :: ·) := by
  simp only [decodeFrom, charOf_ne_mark alphabet hn, ↓reduceIte, valueOf?_charOf h hn]

theorem decodeFrom_third :
    decodeFrom readable ⟨2, bits, 0⟩ (charOf alphabet n :: rest) =
      (decodeFrom readable ⟨3, n % 4, 0⟩ rest).map (UInt8.ofNat (bits * 16 + n / 4) :: ·) := by
  simp only [decodeFrom, charOf_ne_mark alphabet hn, ↓reduceIte, valueOf?_charOf h hn]

theorem decodeFrom_fourth :
    decodeFrom readable ⟨3, bits, 0⟩ (charOf alphabet n :: rest) =
      (decodeFrom readable ⟨0, 0, 0⟩ rest).map (UInt8.ofNat (bits * 64 + n) :: ·) := by
  simp only [decodeFrom, charOf_ne_mark alphabet hn, ↓reduceIte, valueOf?_charOf h hn]

end Digits

theorem pad_group (a b c d : Char) (rest : List Char) :
    pad (a :: b :: c :: d :: rest) = a :: b :: c :: d :: pad rest := by
  simp only [pad, List.length_cons, List.cons_append]
  rw [show (rest.length + 1 + 1 + 1 + 1) % 4 = rest.length % 4 by omega]

/-- Every byte that was put in is given back. -/
theorem decode?_encode (h : Takes readable alphabet) (bytes : List UInt8) :
    decode? readable (encode alphabet bytes) = some bytes := by
  have hbyte : ∀ (b : UInt8) {n : Nat}, n = b.toNat → UInt8.ofNat n = b :=
    fun b n hn => by rw [hn, UInt8.ofNat_toNat]
  rw [decode?, encode]
  induction bytes using encodeBare.induct with
  | case1 => simp only [encodeBare, pad, List.length_nil, List.nil_append]; rfl
  | case2 a =>
      have ha := a.toNat_lt
      have hpad : pad (encodeBare alphabet [a]) =
          [charOf alphabet (a.toNat * 16 / 64), charOf alphabet (a.toNat * 16 % 64), '=', '='] :=
        rfl
      have hmarks : ∀ bits, decodeFrom readable ⟨2, bits, 0⟩ ['=', '='] = some [] :=
        fun _ => by simp only [decodeFrom, ↓reduceIte, Nat.reduceLeDiff, Nat.reduceAdd]
      rw [hpad, decodeFrom_first h (by omega), decodeFrom_second h (by omega), hmarks,
        Option.map_some, hbyte a (by omega)]
  | case3 a b =>
      have ha := a.toNat_lt
      have hb := b.toNat_lt
      have hpad : pad (encodeBare alphabet [a, b]) =
          [charOf alphabet ((a.toNat * 256 + b.toNat) * 4 / 4096),
            charOf alphabet ((a.toNat * 256 + b.toNat) * 4 / 64 % 64),
            charOf alphabet ((a.toNat * 256 + b.toNat) * 4 % 64), '='] := rfl
      have hmark : ∀ bits, decodeFrom readable ⟨3, bits, 0⟩ ['='] = some [] :=
        fun _ => by simp only [decodeFrom, ↓reduceIte, Nat.reduceLeDiff, Nat.reduceAdd]
      rw [hpad, decodeFrom_first h (by omega), decodeFrom_second h (by omega),
        decodeFrom_third h (by omega), hmark, Option.map_some, Option.map_some,
        hbyte a (by omega), hbyte b (by omega)]
  | case4 a b c rest ih =>
      have ha := a.toNat_lt
      have hb := b.toNat_lt
      have hc := c.toNat_lt
      rw [encodeBare, pad_group, decodeFrom_first h (by omega), decodeFrom_second h (by omega),
        decodeFrom_third h (by omega), decodeFrom_fourth h (by omega), ih, Option.map_some,
        Option.map_some, Option.map_some, hbyte a (by omega), hbyte b (by omega),
        hbyte c (by omega)]

theorem IsDigit.toNat_lt {c : Char} (h : IsDigit c) : c.toNat < 0x80 := by
  have hbelow : ∀ {last : Char}, c ≤ last → last.toNat < 0x80 → c.toNat < 0x80 := by
    intro last hle hlast
    rw [Char.le_def, UInt32.le_iff_toNat_le] at hle
    exact Nat.lt_of_le_of_lt hle hlast
  rw [IsDigit, valueOf?] at h
  split at h
  · next hcapital => exact hbelow hcapital.2 (by decide)
  split at h
  · next hsmall => exact hbelow hsmall.2 (by decide)
  split at h
  · next hdigit => exact hbelow hdigit.2 (by decide)
  split at h
  · next hsign =>
      rcases hsign with rfl | ⟨rfl, -⟩
      · decide
      · decide
  split at h
  · next hsign =>
      rcases hsign with rfl | ⟨rfl, -⟩
      · decide
      · decide
  · cases h

theorem isAscii_encodeBare (alphabet : Alphabet) (bytes : List UInt8) :
    Text.IsAscii (encodeBare alphabet bytes) :=
  fun c hc => (isDigit_encodeBare alphabet bytes c hc).toNat_lt

/-- A part of a token gives its bytes back. -/
theorem decodeBytes?_encodeBare (bytes : List UInt8) :
    decodeBytes? (Text.Utf8.encode (encodeBare .urlSafe bytes)) = some bytes := by
  have htakes : Takes .either .urlSafe := rfl
  rw [decodeBytes?, Text.Utf8.map_char_encode (isAscii_encodeBare .urlSafe bytes)]
  exact decode?_encode htakes bytes

end Base64

/-! ## Parts and dots -/

namespace Dotted

variable {bytes : List UInt8}

theorem toNat_lt_of_mem_segment {b : UInt8} (h : b ∈ segment bytes) : b.toNat < 0x80 := by
  rw [segment, Text.Utf8.encode_ascii (Base64.isAscii_encodeBare .urlSafe bytes),
    List.mem_map] at h
  obtain ⟨c, hc, rfl⟩ := h
  have hdigit := Base64.isDigit_encodeBare .urlSafe bytes c hc
  rw [Text.Utf8.toNat_ofNat_byte hdigit.toNat_lt]
  exact hdigit.toNat_lt

theorem decodeBytes?_segment (bytes : List UInt8) :
    Base64.decodeBytes? (segment bytes) = some bytes := Base64.decodeBytes?_encodeBare bytes

theorem dot_not_mem_segment (bytes : List UInt8) : dot ∉ segment bytes := by
  rw [segment, Text.Utf8.encode_ascii (Base64.isAscii_encodeBare .urlSafe bytes),
    List.mem_map]
  rintro ⟨c, hc, hdot⟩
  have hdigit := Base64.isDigit_encodeBare .urlSafe bytes c hc
  have hnat := Text.Utf8.toNat_ofNat_byte hdigit.toNat_lt
  have hpoint : c = '.' := by
    rw [← Char.ofNat_toNat c, ← hnat, hdot]
    rfl
  subst hpoint
  exact absurd hdigit (by decide)

theorem bytes_asciiText (h : ∀ b ∈ bytes, b.toNat < 0x80) :
    Text.Utf8.bytes (asciiText bytes) = bytes := by
  have hascii : Text.IsAscii (bytes.map fun b => Char.ofNat b.toNat) := by
    intro c hc
    obtain ⟨b, hb, rfl⟩ := List.mem_map.mp hc
    rw [Text.toNat_ofNat_byte]
    exact h b hb
  rw [Text.Utf8.bytes, asciiText, String.toList_ofList, Text.Utf8.encode_ascii hascii,
    List.map_map, List.map_congr_left (g := id), List.map_id]
  intro b _
  rw [Function.comp_apply, Text.toNat_ofNat_byte, UInt8.ofNat_toNat]
  rfl

theorem ne_dot_of_not_mem (h : dot ∉ bytes) : ∀ b ∈ bytes, (b != dot) = true := by
  intro b hb
  rw [bne_iff_ne]
  rintro rfl
  exact h hb

/-- What stands on either side of the last dot. -/
theorem splitLast_dot {behind : List UInt8} (h : dot ∉ behind) (before : List UInt8) :
    splitLast (before ++ dot :: behind) = some (before, behind) := by
  have hbehind : ∀ b ∈ behind.reverse, (b != dot) = true :=
    ne_dot_of_not_mem fun hmem => h (List.mem_reverse.mp hmem)
  have hreverse : (before ++ dot :: behind).reverse = behind.reverse ++ dot :: before.reverse := by
    rw [List.reverse_append, List.reverse_cons, List.append_assoc]
    rfl
  rw [splitLast, hreverse, List.takeWhile_append_of_pos hbehind,
    List.dropWhile_append_of_pos hbehind]
  simp

theorem splitFirst_dot {before : List UInt8} (h : dot ∉ before) (behind : List UInt8) :
    splitFirst (before ++ dot :: behind) = some (before, behind) := by
  have hbefore := ne_dot_of_not_mem h
  rw [splitFirst, List.takeWhile_append_of_pos hbefore, List.dropWhile_append_of_pos hbefore]
  simp

variable {before behind : List UInt8}

theorem splitFirst_eq_some_iff :
    splitFirst bytes = some (before, behind) ↔ bytes = before ++ dot :: behind ∧ dot ∉ before := by
  constructor
  · intro h
    have hjoin := List.takeWhile_append_dropWhile (p := (· != dot)) (l := bytes)
    have hfree : dot ∉ bytes.takeWhile (· != dot) := fun hmem => by
      simpa using List.all_eq_true.mp List.all_takeWhile _ hmem
    rw [splitFirst] at h
    cases hdrop : bytes.dropWhile (· != dot) with
    | nil =>
        rw [hdrop] at h
        cases h
    | cons b rest =>
        have hstop := List.head?_dropWhile_not (· != dot) bytes
        simp only [hdrop, List.head?_cons] at hstop
        obtain rfl : b = dot := by simpa using hstop
        rw [hdrop] at h hjoin
        injection h with h
        injection h with hbefore hbehind
        rw [hbefore] at hjoin hfree
        rw [hbehind] at hjoin
        exact ⟨hjoin.symm, hfree⟩
  · rintro ⟨rfl, hfree⟩
    exact splitFirst_dot hfree behind

/-- The last dot is the first one from behind. -/
theorem splitLast_eq_map (bytes : List UInt8) :
    splitLast bytes = (splitFirst bytes.reverse).map fun p => (p.2.reverse, p.1.reverse) := by
  rw [splitLast, splitFirst]
  cases bytes.reverse.dropWhile (· != dot) with
  | nil => rfl
  | cons b rest => rfl

theorem splitLast_eq_some_iff :
    splitLast bytes = some (before, behind) ↔ bytes = before ++ dot :: behind ∧ dot ∉ behind := by
  constructor
  · intro h
    rw [splitLast_eq_map, Option.map_eq_some_iff] at h
    obtain ⟨⟨first, rest⟩, hfirst, hparts⟩ := h
    obtain ⟨hjoin, hfree⟩ := splitFirst_eq_some_iff.mp hfirst
    injection hparts with hbefore hbehind
    subst hbefore hbehind
    refine ⟨?_, by simpa using hfree⟩
    rw [← List.reverse_reverse bytes, hjoin]
    simp
  · rintro ⟨rfl, hfree⟩
    exact splitLast_dot hfree before

end Dotted

/-! ## JSON in bytes -/

namespace Json

variable {cs : List Char}

theorem unmarkedCoding_eq {bytes : List UInt8} (h : ∀ b ∈ bytes, b ≠ 0) :
    unmarkedCoding bytes = .utf8 := by
  rw [unmarkedCoding.eq_def]
  split
  · next a b _ _ _ => rw [if_neg (h a (by simp)), if_neg (h b (by simp))]
  · next a b => rw [if_neg (h a (by simp)), if_neg (h b (by simp))]
  · rfl

theorem codingOf_ascii {bytes : List UInt8} (h : ∀ b ∈ bytes, b ≠ 0 ∧ b.toNat < 0x80) :
    codingOf bytes = (.utf8, bytes) := by
  -- each mark has a byte in it that is no ASCII
  have hmark : ∀ mark ∈ codingMarks, ∃ b ∈ mark.1, ¬ b.toNat < 0x80 := by
    intro mark hmark
    simp only [codingMarks, List.mem_cons, List.not_mem_nil, or_false] at hmark
    rcases hmark with rfl | rfl | rfl | rfl | rfl
    · exact ⟨0xfe, by simp, by decide⟩
    · exact ⟨0xff, by simp, by decide⟩
    · exact ⟨0xfe, by simp, by decide⟩
    · exact ⟨0xff, by simp, by decide⟩
    · exact ⟨0xef, by simp, by decide⟩
  have hnone : codingMarks.find? (fun mark => mark.1.isPrefixOf bytes) = none := by
    rw [List.find?_eq_none]
    intro mark hmem hfront
    obtain ⟨b, hb, hlarge⟩ := hmark mark hmem
    exact hlarge (h b ((List.isPrefixOf_iff_prefix.mp hfront).subset hb)).2
  rw [codingOf, hnone, unmarkedCoding_eq fun b hb => (h b hb).1]

theorem escapeHalves_ascii {bytes : List UInt8} (h : ∀ b ∈ bytes, b.toNat < 0x80) :
    escapeHalves bytes = bytes := by
  induction bytes with
  | nil => rfl
  | cons b rest ih =>
      have hb : b ≠ 0xed := fun heq => absurd (heq ▸ h b List.mem_cons_self) (by decide)
      rw [escapeHalves.eq_def]
      split
      · next heq =>
          injection heq with heq _
          exact absurd heq hb
      · next heq =>
          injection heq with heq hrest
          rw [← heq, ← hrest, ih fun b hb => h b (List.mem_cons_of_mem _ hb)]
      · next heq => exact absurd heq (List.cons_ne_nil b rest)

/-- ASCII without zero bytes is taken for what it is. -/
theorem textOfBytes?_encode (hascii : Text.IsAscii cs) (hzero : ∀ c ∈ cs, c.toNat ≠ 0) :
    textOfBytes? (Text.Utf8.encode cs) = some cs := by
  have hbytes : ∀ b ∈ Text.Utf8.encode cs, b ≠ 0 ∧ b.toNat < 0x80 := by
    intro b hb
    rw [Text.Utf8.encode_ascii hascii, List.mem_map] at hb
    obtain ⟨c, hc, rfl⟩ := hb
    have hnat := Text.Utf8.toNat_ofNat_byte (hascii c hc)
    refine ⟨fun hbyte => hzero c hc ?_, by rw [hnat]; exact hascii c hc⟩
    rw [← hnat, hbyte]
    rfl
  have hhalves := escapeHalves_ascii fun b hb => (hbytes b hb).2
  have hdecode := Text.Utf8.decode?_encode hascii
  rw [textOfBytes?, codingOf_ascii hbytes]
  rwa [← hhalves] at hdecode

end Json

end Gatehouse
