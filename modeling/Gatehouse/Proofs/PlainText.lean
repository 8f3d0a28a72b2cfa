import Gatehouse.Proofs.NumberText
import Gatehouse.Proofs.Octets

/-!
# JSON text in ASCII

Whatever a value holds, its text in one of the ASCII styles is made of printable ASCII
characters: everything else is escaped, and an escape is written in letters and digits. So
tokens and sessions go through bytes unchanged.
-/

namespace Gatehouse.Json

variable {style : Style}

/-- Whether a character is ASCII and no control character. -/
def IsShown (c : Char) : Prop := 0x20 ≤ c.toNat ∧ c.toNat < 0x7f

instance (c : Char) : Decidable (IsShown c) := by unfold IsShown; infer_instance

theorem isShown_of_all {cs : List Char} (h : (cs.all fun c => decide (IsShown c)) = true) :
    ∀ c ∈ cs, IsShown c :=
  fun c hc => of_decide_eq_true (List.all_eq_true.mp h c hc)

theorem isShown_of_isDigit {c : Char} (h : isDigit c = true) : IsShown c := by
  have hzero : '0'.toNat = 48 := by decide
  have hnine : '9'.toNat = 57 := by decide
  simp only [isDigit, Bool.and_eq_true, decide_eq_true_eq, Char.le_def, UInt32.le_iff_toNat_le] at h
  simp only [IsShown, Char.toNat] at hzero hnine ⊢
  omega

theorem isShown_unitEscape (n : Nat) : ∀ c ∈ unitEscape n, IsShown c := by
  have hdigit : ∀ k < 16, IsShown (Text.Hex.digit k) := by decide
  have hmod : ∀ k, IsShown (Text.Hex.digit (k % 16)) := fun k =>
    hdigit (k % 16) (Nat.mod_lt k (by decide))
  simp only [unitEscape, Text.Hex.padded, List.nil_append, List.cons_append, List.mem_cons,
    List.not_mem_nil, or_false]
  rintro c (rfl | rfl | rfl | rfl | rfl | rfl)
  · decide
  · decide
  · exact hmod _
  · exact hmod _
  · exact hmod _
  · exact hmod _

theorem isShown_escapeChar (c : Char) : ∀ d ∈ escapeChar true c, IsShown d := by
  rw [escapeChar]
  split
  · exact isShown_of_all (by decide)
  split
  · exact isShown_of_all (by decide)
  split
  · exact isShown_of_all (by decide)
  split
  · exact isShown_of_all (by decide)
  split
  · exact isShown_of_all (by decide)
  split
  · exact isShown_of_all (by decide)
  split
  · exact isShown_of_all (by decide)
  split
  · exact isShown_unitEscape _
  split
  · split
    · exact isShown_unitEscape _
    · intro d hd
      rcases List.mem_append.mp hd with hd | hd
      · exact isShown_unitEscape _ d hd
      · exact isShown_unitEscape _ d hd
  · next hcontrol hhigh =>
      intro d hd
      rw [List.mem_singleton.mp hd]
      simp only [Bool.true_and, decide_eq_true_eq] at hhigh
      exact ⟨by omega, by omega⟩

theorem isShown_escapePoint (n : Nat) : ∀ d ∈ escapePoint true n, IsShown d := by
  rw [escapePoint]
  split
  · exact isShown_escapeChar _
  · exact isShown_unitEscape n

theorem isShown_positional {digits : List Char} (h : ∀ c ∈ digits, isDigit c = true) (place : Int) :
    ∀ c ∈ Binary64.positional digits place, IsShown c := by
  have hzeros : ∀ k, ∀ c ∈ List.replicate k '0', IsShown c := fun k c hc =>
    isShown_of_isDigit (isDigit_of_mem_zeros hc)
  have hdigits : ∀ c ∈ digits, IsShown c := fun c hc => isShown_of_isDigit (h c hc)
  rw [Binary64.positional]
  split
  · intro c hc
    simp only [List.cons_append, List.mem_cons, List.mem_append] at hc
    rcases hc with rfl | rfl | hc | hc
    · decide
    · decide
    · exact hzeros _ c hc
    · exact hdigits c hc
  · intro c hc
    simp only [List.mem_append, List.mem_cons] at hc
    rcases hc with (hc | hc) | rfl | hc
    · exact hdigits c (List.mem_of_mem_take hc)
    · exact hzeros _ c hc
    · decide
    · split at hc
      · rw [List.mem_singleton.mp hc]
        decide
      · exact hdigits c (List.mem_of_mem_drop hc)

theorem isShown_exponentText (k : Int) : ∀ c ∈ Binary64.exponentText k, IsShown c := by
  intro c hc
  simp only [Binary64.exponentText, List.cons_append, List.mem_cons, List.mem_append] at hc
  rcases hc with rfl | hc | hc
  · split
    · decide
    · decide
  · exact isShown_of_isDigit (isDigit_of_mem_zeros hc)
  · exact isShown_of_isDigit (isDigit_of_mem_toDigits hc)

theorem isShown_magnitudeText (m : Nat) (e : Int) :
    ∀ c ∈ Binary64.magnitudeText m e, IsShown c := by
  rw [Binary64.magnitudeText]
  split
  · exact isShown_of_all (by decide)
  · have hdigits : ∀ c ∈ Binary64.trimZeros (Nat.toDigits 10 (Binary64.shortest m e).1),
        isDigit c = true := by
      intro c hc
      exact isDigit_of_mem_toDigits (Binary64.mem_of_mem_trimZeros hc)
    simp only
    split
    · exact isShown_positional hdigits _
    · intro c hc
      simp only [List.mem_append, List.mem_cons] at hc
      rcases hc with (hc | hc) | rfl | hc
      · exact isShown_of_isDigit (hdigits c (List.mem_of_mem_take hc))
      · split at hc
        · cases hc
        · rcases List.mem_cons.mp hc with rfl | hc
          · decide
          · exact isShown_of_isDigit (hdigits c (List.mem_of_mem_drop hc))
      · decide
      · exact isShown_exponentText _ c hc

theorem isShown_floatText (x : Binary64) : ∀ c ∈ floatText x, IsShown c := by
  cases x with
  | nan => exact isShown_of_all (by decide)
  | infinite negative => cases negative <;> exact isShown_of_all (by decide)
  | finite negative m e hcanonical =>
      rw [floatText_finite]
      intro c hc
      rcases List.mem_append.mp hc with hc | hc
      · split at hc
        · rw [List.mem_singleton.mp hc]
          decide
        · cases hc
      · exact isShown_magnitudeText m e c hc

/-- Whether a style escapes what is not ASCII and has nothing else between values. -/
structure Style.IsShown (style : Style) : Prop where
  asciiOnly : style.asciiOnly = true
  comma : ∀ c ∈ style.comma, Json.IsShown c
  colon : ∀ c ∈ style.colon, Json.IsShown c

theorem Style.isShown_compactAscii : Style.compactAscii.IsShown :=
  ⟨rfl, isShown_of_all (by decide), isShown_of_all (by decide)⟩

theorem Style.isShown_spacedAscii : Style.spacedAscii.IsShown :=
  ⟨rfl, isShown_of_all (by decide), isShown_of_all (by decide)⟩

theorem isShown_quote (s : String) : ∀ c ∈ quote true s, IsShown c := by
  intro c hc
  simp only [quote, List.cons_append, List.mem_cons, List.mem_append, List.mem_flatMap,
    List.not_mem_nil, or_false] at hc
  rcases hc with rfl | ⟨d, -, hc⟩ | rfl
  · decide
  · exact isShown_escapeChar d c hc
  · decide

mutual

/-- The text of a value is all ASCII and has no control characters. -/
theorem isShown_print (hstyle : style.IsShown) : ∀ v : Json, ∀ c ∈ print style v, IsShown c
  | .null => by
      rw [print]
      exact isShown_of_all (by decide)
  | .bool true => by
      rw [print]
      exact isShown_of_all (by decide)
  | .bool false => by
      rw [print]
      exact isShown_of_all (by decide)
  | .int n => by
      intro c hc
      rw [print, toString_toList] at hc
      rcases List.mem_append.mp hc with hc | hc
      · split at hc
        · rw [List.mem_singleton.mp hc]
          decide
        · cases hc
      · exact isShown_of_isDigit (isDigit_of_mem_toDigits hc)
  | .float x => by
      rw [print]
      exact isShown_floatText x
  | .str s => by
      rw [print, hstyle.asciiOnly]
      exact isShown_quote s
  | .unpaired points => by
      intro c hc
      simp only [print, hstyle.asciiOnly, List.cons_append, List.mem_cons, List.mem_append,
        List.mem_flatMap, List.not_mem_nil, or_false] at hc
      rcases hc with rfl | ⟨n, -, hc⟩ | rfl
      · decide
      · exact isShown_escapePoint n c hc
      · decide
  | .arr items => by
      intro c hc
      simp only [print, List.cons_append, List.mem_cons, List.mem_append, List.not_mem_nil,
        or_false] at hc
      rcases hc with rfl | hc | rfl
      · decide
      · exact isShown_printItems hstyle items c hc
      · decide
  | .obj members => by
      intro c hc
      simp only [print, List.cons_append, List.mem_cons, List.mem_append, List.not_mem_nil,
        or_false] at hc
      rcases hc with rfl | hc | rfl
      · decide
      · exact isShown_printMembers hstyle members c hc
      · decide

theorem isShown_printItems (hstyle : style.IsShown) :
    ∀ vs : List Json, ∀ c ∈ printItems style vs, IsShown c
  | [] => fun c hc => nomatch hc
  | [v] => by
      rw [printItems]
      exact isShown_print hstyle v
  | v :: u :: us => by
      intro c hc
      simp only [printItems, List.mem_append] at hc
      rcases hc with (hc | hc) | hc
      · exact isShown_print hstyle v c hc
      · exact hstyle.comma c hc
      · exact isShown_printItems hstyle (u :: us) c hc

theorem isShown_printMembers (hstyle : style.IsShown) :
    ∀ ms : List (String × Json), ∀ c ∈ printMembers style ms, IsShown c
  | [] => fun c hc => nomatch hc
  | [(k, v)] => by
      intro c hc
      simp only [printMembers, hstyle.asciiOnly, List.mem_append] at hc
      rcases hc with (hc | hc) | hc
      · exact isShown_quote k c hc
      · exact hstyle.colon c hc
      · exact isShown_print hstyle v c hc
  | (k, v) :: p :: ps => by
      intro c hc
      simp only [printMembers, hstyle.asciiOnly, List.mem_append] at hc
      rcases hc with (((hc | hc) | hc) | hc) | hc
      · exact isShown_quote k c hc
      · exact hstyle.colon c hc
      · exact isShown_print hstyle v c hc
      · exact hstyle.comma c hc
      · exact isShown_printMembers hstyle (p :: ps) c hc

end

theorem isAscii_print (hstyle : style.IsShown) (v : Json) : Text.IsAscii (print style v) := by
  intro c hc
  have hshown := isShown_print hstyle v c hc
  exact Nat.lt_trans hshown.2 (by decide)

/-- The text of a value is in its bytes, for a reader of text and for a reader of JSON. -/
theorem decode?_print (hstyle : style.IsShown) (v : Json) :
    Text.Utf8.decode? (Text.Utf8.encode (print style v)) = some (print style v) :=
  Text.Utf8.decode?_encode (isAscii_print hstyle v)

theorem textOfBytes?_print (hstyle : style.IsShown) (v : Json) :
    textOfBytes? (Text.Utf8.encode (print style v)) = some (print style v) := by
  refine textOfBytes?_encode (isAscii_print hstyle v) fun c hc hzero => ?_
  have hshown := (isShown_print hstyle v c hc).1
  rw [hzero] at hshown
  exact absurd hshown (by decide)

end Gatehouse.Json
