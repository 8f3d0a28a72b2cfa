import Gatehouse.Http.Jar
import Gatehouse.Proofs.PlainText

/-!
# A session comes back as it was sent

A session is JSON in base 64 with the second at which it was sent, signed, in a cookie.
The parts are found again at their dots, and the second is a number again, for eight bytes
are enough for it until long after the calendar has ended. None of the characters means
anything to a client or in the line of a request, so a jar keeps the whole of the cookie and
brings the whole of it.
-/

namespace Gatehouse

/-! ## Numbers in bytes -/

namespace Digest

theorem number_concat (bytes : List UInt8) (b : UInt8) :
    number (bytes ++ [b]) = number bytes * 256 + b.toNat := by
  rw [number, List.foldl_append]
  rfl

theorem number_numberBytes (count n : Nat) : number (numberBytes count n) = n % 256 ^ count := by
  induction count generalizing n with
  | zero => rw [Nat.pow_zero, Nat.mod_one]; rfl
  | succ count ih =>
      have hbyte : (UInt8.ofNat (n % 256)).toNat = n % 256 := by
        rw [UInt8.toNat_ofNat']
        omega
      have hmod : n % 256 ^ (count + 1) = n % 256 + 256 * (n / 256 % 256 ^ count) := by
        rw [Nat.pow_succ', Nat.mod_mul]
      rw [numberBytes, number_concat, ih, hbyte, hmod]
      omega

theorem length_numberBytes (count n : Nat) : (numberBytes count n).length = count := by
  induction count generalizing n with
  | zero => rfl
  | succ count ih => rw [numberBytes, List.length_append, ih, List.length_singleton]

/-- Zeros in front count for nothing. -/
theorem number_dropWhile (bytes : List UInt8) :
    number (bytes.dropWhile (· == 0)) = number bytes := by
  induction bytes with
  | nil => rfl
  | cons b bytes ih =>
      cases hb : b == 0 with
      | true =>
          rw [List.dropWhile_cons_of_pos (p := (· == 0)) hb, ih, beq_iff_eq.mp hb]
          rfl
      | false => rw [List.dropWhile_cons_of_neg (by rw [hb]; exact Bool.false_ne_true)]

end Digest

namespace Http.SessionCookie

open Dotted (dot segment asciiText)

theorem number_minimalBytes (n : Nat) : Digest.number (minimalBytes n) = n := by
  have hlt : n < 256 ^ (n.log2 / 8 + 1) := by
    have hlog : n < 2 ^ (n.log2 + 1) := Nat.lt_log2_self
    have hpow : 2 ^ (n.log2 + 1) ≤ 2 ^ (8 * (n.log2 / 8 + 1)) :=
      Nat.pow_le_pow_right (by decide) (by omega)
    rw [Nat.pow_mul] at hpow
    exact Nat.lt_of_lt_of_le hlog hpow
  rw [minimalBytes, Digest.number_dropWhile, Digest.number_numberBytes, Nat.mod_eq_of_lt hlt]

theorem length_minimalBytes {n : Nat} (h : n < 2 ^ 64) : (minimalBytes n).length ≤ 8 := by
  have hlog : n.log2 < 64 := by
    rcases Nat.eq_zero_or_pos n with rfl | hn
    · decide
    · exact (Nat.log2_lt (Nat.pos_iff_ne_zero.mp hn)).mpr h
  have hdrop : ((Digest.numberBytes (n.log2 / 8 + 1) n).dropWhile (· == 0)).length ≤ _ :=
    (List.dropWhile_sublist (· == 0)).length_le
  rw [Digest.length_numberBytes] at hdrop
  rw [minimalBytes]
  omega

/-! ## Signing -/

variable {secret : String} {second : Nat} {content : Json}

/-- What was signed is found to be signed, and when. -/
theorem unsign?_sign (secret : String) (second : Nat) (value : List UInt8) :
    unsign? secret (sign secret second value) =
      if (minimalBytes second).length ≤ 8 then some (value, second) else none := by
  have hsecond : secondOf? (segment (minimalBytes second)) =
      if (minimalBytes second).length ≤ 8 then some second else none := by
    rw [secondOf?, Dotted.decodeBytes?_segment]
    simp only [Option.bind_eq_bind, Option.bind_some, number_minimalBytes]
    rfl
  rw [sign, unsign?, Dotted.splitLast_dot (Dotted.dot_not_mem_segment _)]
  simp only [Option.bind_eq_bind, Option.bind_some, Dotted.decodeBytes?_segment, ↓reduceIte,
    Dotted.splitLast_dot (Dotted.dot_not_mem_segment _), hsecond]
  split <;> rfl

/-- The content of a session in base 64. -/
def contentText (content : Json) : List Char :=
  Base64.encode .plain (Text.Utf8.encode (content.print .spacedAscii))

/-- The characters of a session cookie. -/
def IsCookieChar (c : Char) : Prop := Base64.IsDigit c ∨ c = '=' ∨ c = '.'

instance (c : Char) : Decidable (IsCookieChar c) := inferInstanceAs (Decidable (_ ∨ _))

theorem isCookieChar_contentText (content : Json) : ∀ c ∈ contentText content, IsCookieChar c := by
  intro c hc
  rw [contentText, Base64.encode, Base64.pad, List.mem_append] at hc
  rcases hc with hc | hc
  · exact Or.inl (Base64.isDigit_encodeBare .plain _ c hc)
  · exact Or.inr (Or.inl (List.eq_of_mem_replicate hc))

theorem IsCookieChar.toNat_lt {c : Char} (h : IsCookieChar c) : c.toNat < 0x80 := by
  rcases h with h | rfl | rfl
  · exact h.toNat_lt
  · decide
  · decide

theorem isAscii_contentText (content : Json) : Text.IsAscii (contentText content) :=
  fun c hc => (isCookieChar_contentText content c hc).toNat_lt

/-- The text of a cookie is its parts, joined by dots. -/
theorem toList_ofJson (secret : String) (second : Nat) (content : Json) :
    ∃ mark, (ofJson secret second content).toList =
      contentText content ++ '.' :: Base64.encodeBare .urlSafe (minimalBytes second) ++
        '.' :: Base64.encodeBare .urlSafe mark := by
  have hsegment : ∀ bytes, (segment bytes).map (fun b => Char.ofNat b.toNat) =
      Base64.encodeBare .urlSafe bytes :=
    fun bytes => Text.Utf8.map_char_encode (Base64.isAscii_encodeBare .urlSafe bytes)
  have hcontent : (Text.Utf8.encode (contentText content)).map (fun b => Char.ofNat b.toNat) =
      contentText content := Text.Utf8.map_char_encode (isAscii_contentText content)
  refine ⟨signature secret (Text.Utf8.encode (contentText content) ++
    dot :: segment (minimalBytes second)), ?_⟩
  rw [ofJson, asciiText, String.toList_ofList, sign, ← contentText]
  simp only [List.map_append, List.map_cons, hsegment, hcontent]
  rfl

theorem isCookieChar_ofJson (secret : String) (second : Nat) (content : Json) :
    ∀ c ∈ (ofJson secret second content).toList, IsCookieChar c := by
  obtain ⟨mark, hparts⟩ := toList_ofJson secret second content
  have hbare : ∀ bytes, ∀ c ∈ Base64.encodeBare .urlSafe bytes, IsCookieChar c :=
    fun bytes c hc => Or.inl (Base64.isDigit_encodeBare .urlSafe bytes c hc)
  intro c hc
  rw [hparts, List.mem_append, List.mem_append, List.mem_cons, List.mem_cons] at hc
  rcases hc with (hc | rfl | hc) | rfl | hc
  · exact isCookieChar_contentText content c hc
  · exact Or.inr (Or.inr rfl)
  · exact hbare _ c hc
  · exact Or.inr (Or.inr rfl)
  · exact hbare _ c hc

/-- The bytes of a cookie are those that were signed. -/
theorem bytes_ofJson (secret : String) (second : Nat) (content : Json) :
    Text.Utf8.bytes (ofJson secret second content) =
      sign secret second (Text.Utf8.encode (contentText content)) := by
  have hascii : ∀ b ∈ sign secret second (Text.Utf8.encode (contentText content)),
      b.toNat < 0x80 := by
    intro b hb
    have hchar := isCookieChar_ofJson secret second content (Char.ofNat b.toNat) (by
      rw [ofJson, asciiText, String.toList_ofList]
      exact List.mem_map_of_mem hb)
    have hlt := hchar.toNat_lt
    rwa [Text.toNat_ofNat_byte] at hlt
  exact Dotted.bytes_asciiText hascii

/-- The content of a cookie is what its JSON is read as. -/
theorem contentOf?_encode (depth : Nat) (content : Json) :
    contentOf? depth (Text.Utf8.encode (contentText content)) =
      (Json.read .asNumber (depth + 1) (content.print .spacedAscii)).toOption := by
  have htakes : Base64.Takes .plain .plain := trivial
  rw [contentOf?, Text.Utf8.map_char_encode (isAscii_contentText content), contentText,
    Base64.decode?_encode htakes]
  simp only [Option.bind_eq_bind, Option.bind_some, Json.readBytes,
    Json.textOfBytes?_print Json.Style.isShown_spacedAscii]

/-! ## The line of a request -/

theorem IsCookieChar.isBlank {c : Char} (h : IsCookieChar c) : Text.isBlank c = false := by
  have hascii : ∀ n < 0x80, IsCookieChar (Char.ofNat n) → Text.isBlank (Char.ofNat n) = false := by
    decide
  have hblank := hascii c.toNat h.toNat_lt
  rw [Char.ofNat_toNat] at hblank
  exact hblank h

theorem trimBlanks_eq_self {cs : List Char} (h : ∀ c ∈ cs, Text.isBlank c = false) :
    Text.trimBlanks cs = cs := by
  have hdrop : ∀ {ds : List Char}, (∀ c ∈ ds, Text.isBlank c = false) →
      ds.dropWhile Text.isBlank = ds := by
    intro ds hds
    cases ds with
    | nil => rfl
    | cons d ds =>
        rw [List.dropWhile_cons_of_neg]
        rw [hds d List.mem_cons_self]
        exact Bool.false_ne_true
  rw [Text.trimBlanks, hdrop h, hdrop fun c hc => h c (List.mem_reverse.mp hc),
    List.reverse_reverse]

theorem pieces_eq_singleton {mark : Char} {cs : List Char} (h : mark ∉ cs) :
    Text.pieces mark cs = [cs] := by
  induction cs with
  | nil => rfl
  | cons c cs ih =>
      rw [List.mem_cons, not_or] at h
      rw [Text.pieces, if_neg (Ne.symm h.1), ih h.2]

/-- The line that brings a cookie is read as that cookie. -/
theorem cookiesOf_line {cookie : String} (h : ∀ c ∈ cookie.toList, IsCookieChar c) :
    cookiesOf (cookieName ++ "=" ++ cookie) = [(cookieName, cookie)] := by
  have hline : (cookieName ++ "=" ++ cookie).toList =
      cookieName.toList ++ '=' :: cookie.toList := by
    rw [String.toList_append, String.toList_append, List.append_assoc]
    rfl
  have hname : ∀ c ∈ cookieName.toList, (c != '=') = true := List.all_eq_true.mp rfl
  have hsemicolon : ';' ∉ cookieName.toList ++ '=' :: cookie.toList := by
    rw [List.mem_append, List.mem_cons, not_or, not_or]
    exact ⟨by decide, by decide, fun hmem => absurd (h _ hmem) (by decide)⟩
  have hunquote : unquote cookie.toList = cookie.toList := by
    rw [unquote.eq_def]
    split
    · next heq =>
        have hquote := h '"' (by rw [heq]; exact List.mem_cons_self)
        exact absurd hquote (by decide)
    · rfl
  have htrim : Text.trimBlanks cookie.toList = cookie.toList :=
    trimBlanks_eq_self fun c hc => (h c hc).isBlank
  have hcookie : cookieOf (cookieName.toList ++ '=' :: cookie.toList) =
      some (cookieName, cookie) := by
    have hdrop : (cookieName.toList ++ '=' :: cookie.toList).dropWhile (· != '=') =
        '=' :: cookie.toList := List.dropWhile_append_of_pos hname
    have htake : (cookieName.toList ++ '=' :: cookie.toList).takeWhile (· != '=') =
        cookieName.toList := by
      rw [List.takeWhile_append_of_pos hname]
      exact List.append_nil _
    simp only [cookieOf, hdrop, htake, htrim, hunquote, String.ofList_toList]
    rfl
  rw [cookiesOf, hline, pieces_eq_singleton hsemicolon, List.filterMap_cons, hcookie]
  rfl

end Http.SessionCookie

end Gatehouse
