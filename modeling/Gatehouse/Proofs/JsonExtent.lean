import Gatehouse.Proofs.JsonReading

/-!
# How far the text of a value goes

The text of a value that does not read back is still read to its own end, or not at all:
the text never runs into what stands behind it. A text between quotes ends at the first
quote that no backslash stands before, whatever its escapes come to; the rest is an
induction over the value, in which lists and objects are read item by item.

What an object is read as has therefore no members but those that were written. Their
values may have changed, but a text that is not empty is read only where one was written.
-/

namespace Gatehouse.Json

variable {style : Style} {asciiOnly : Bool} {cs rest after : List Char}

/-! ## Texts -/

/-- What stands behind the first quote that no backslash stands before. -/
def behindQuote? : List Char → Option (List Char)
  | [] => none
  | '"' :: rest => some rest
  | ['\\'] => none
  | '\\' :: _ :: rest => behindQuote? rest
  | _ :: rest => behindQuote? rest

theorem behindQuote?_slash (c : Char) (rest : List Char) :
    behindQuote? ('\\' :: c :: rest) = behindQuote? rest := rfl

theorem behindQuote?_plain {c : Char} (hquote : c ≠ '"') (hslash : c ≠ '\\') (rest : List Char) :
    behindQuote? (c :: rest) = behindQuote? rest := by
  rw [behindQuote?.eq_def]
  split
  · next heq => cases heq
  · next heq =>
      injection heq with heq
      exact absurd heq hquote
  · next heq =>
      injection heq with heq
      exact absurd heq hslash
  · next heq =>
      injection heq with heq
      exact absurd heq hslash
  · next heq =>
      injection heq with _ heq
      rw [heq]

theorem behindQuote?_append {word : List Char} (h : ∀ c ∈ word, c ≠ '"' ∧ c ≠ '\\')
    (rest : List Char) : behindQuote? (word ++ rest) = behindQuote? rest := by
  induction word with
  | nil => rfl
  | cons c word ih =>
      obtain ⟨hquote, hslash⟩ := h c List.mem_cons_self
      rw [List.cons_append, behindQuote?_plain hquote hslash]
      exact ih fun d hd => h d (List.mem_cons_of_mem c hd)

theorem hexDigit_plain (n : Nat) :
    Text.Hex.digit (n % 16) ≠ '"' ∧ Text.Hex.digit (n % 16) ≠ '\\' := by
  have hdigit : ∀ d < 16, Text.Hex.digit d ≠ '"' ∧ Text.Hex.digit d ≠ '\\' := by decide
  exact hdigit _ (Nat.mod_lt _ (by decide))

theorem padded_plain (width n : Nat) : ∀ c ∈ Text.Hex.padded width n, c ≠ '"' ∧ c ≠ '\\' := by
  induction width generalizing n with
  | zero => exact fun c hc => nomatch hc
  | succ width ih =>
      intro c hc
      rw [Text.Hex.padded, List.mem_append, List.mem_singleton] at hc
      rcases hc with hc | rfl
      · exact ih _ c hc
      · exact hexDigit_plain n

theorem behindQuote?_unitEscape (n : Nat) (rest : List Char) :
    behindQuote? (unitEscape n ++ rest) = behindQuote? rest := by
  rw [unitEscape, List.cons_append, List.cons_append, behindQuote?_slash,
    behindQuote?_append (padded_plain 4 n)]

theorem Escape.behindQuote? {n : Nat} (h : Escape n cs) (rest : List Char) :
    behindQuote? (cs ++ rest) = Json.behindQuote? rest := by
  cases h with
  | short _ _ => rfl
  | unit _ => exact behindQuote?_unitEscape n rest
  | pair _ _ => rw [List.append_assoc, behindQuote?_unitEscape, behindQuote?_unitEscape]
  | plain _ hquote hslash _ => exact behindQuote?_plain hquote hslash rest

theorem behindQuote?_points (points : List Nat) (rest : List Char) :
    behindQuote? (points.flatMap (escapePoint asciiOnly) ++ '"' :: rest) = some rest := by
  induction points with
  | nil => rfl
  | cons n points ih =>
      have hpoint : ∀ cs, behindQuote? (escapePoint asciiOnly n ++ cs) = behindQuote? cs := by
        intro cs
        rw [escapePoint]
        split
        · exact (escapeChar_escape asciiOnly (Char.ofNat n)).behindQuote? cs
        · exact behindQuote?_unitEscape n cs
      rw [List.flatMap_cons, List.append_assoc, hpoint, ih]

theorem Hex.value?_plain {c : Char} {n : Nat} (h : Text.Hex.value? c = some n) :
    c ≠ '"' ∧ c ≠ '\\' := by
  constructor
  · rintro rfl
    exact nomatch h
  · rintro rfl
    exact nomatch h

theorem behindQuote?_hexUnit? {n : Nat} (h : hexUnit? cs = some (n, rest)) :
    behindQuote? cs = behindQuote? rest := by
  rw [hexUnit?.eq_def] at h
  split at h
  · simp only [Option.bind_eq_bind, Option.bind_eq_some_iff, Option.pure_def,
      Option.some.injEq, Prod.mk.injEq] at h
    obtain ⟨_, ha, _, hb, _, hc, _, hd, -, rfl⟩ := h
    obtain ⟨ha, ha'⟩ := Hex.value?_plain ha
    obtain ⟨hb, hb'⟩ := Hex.value?_plain hb
    obtain ⟨hc, hc'⟩ := Hex.value?_plain hc
    obtain ⟨hd, hd'⟩ := Hex.value?_plain hd
    rw [behindQuote?_plain ha ha', behindQuote?_plain hb hb', behindQuote?_plain hc hc',
      behindQuote?_plain hd hd']
  · cases h

theorem behindQuote?_lowSurrogate? {n : Nat} (h : lowSurrogate? cs = some (n, rest)) :
    behindQuote? cs = behindQuote? rest := by
  rw [lowSurrogate?.eq_def] at h
  split at h
  · simp only [Option.bind_eq_bind, Option.bind_eq_some_iff] at h
    obtain ⟨⟨m, behind⟩, hunit, h⟩ := h
    split at h
    · injection h with h
      injection h with _ h
      rw [behindQuote?_slash, behindQuote?_hexUnit? hunit]
      exact congrArg behindQuote? h
    · cases h
  · cases h

theorem behindQuote?_escape? {n : Nat} (h : escape? cs = some (n, rest)) :
    behindQuote? ('\\' :: cs) = behindQuote? rest := by
  cases cs with
  | nil => cases h
  | cons c tail =>
      by_cases hc : c = 'u'
      · subst hc
        rw [escape?] at h
        simp only [Option.bind_eq_bind, Option.bind_eq_some_iff, Prod.exists] at h
        obtain ⟨high, behind, hunit, h⟩ := h
        rw [behindQuote?_slash, behindQuote?_hexUnit? hunit]
        split at h
        · split at h
          · next low after hsecond =>
              obtain ⟨-, h⟩ := Prod.mk.inj (Option.some.inj h)
              rw [behindQuote?_lowSurrogate? hsecond, h]
          · injection h with h
            injection h with _ h
            rw [h]
        · injection h with h
          injection h with _ h
          rw [h]
      · rw [behindQuote?_slash, (escape?_short hc h).2]

/-- A text that is read ends there. -/
theorem behindQuote?_textBody? {fuel : Nat} {points : List Nat}
    (h : textBody? fuel cs = some (points, rest)) : behindQuote? cs = some rest := by
  induction fuel generalizing cs points with
  | zero => cases h
  | succ fuel ih =>
      cases cs with
      | nil => cases h
      | cons c cs =>
          rw [textBody?] at h
          split at h
          · next hquote =>
              subst hquote
              injection h with h
              injection h with _ h
              rw [← h]
              rfl
          split at h
          · next hslash =>
              subst hslash
              simp only [Option.bind_eq_bind, Option.bind_eq_some_iff, Option.pure_def,
                Option.some.injEq, Prod.mk.injEq, Prod.exists] at h
              obtain ⟨d, behind, hescape, ds, after, hbody, -, rfl⟩ := h
              rw [behindQuote?_escape? hescape]
              exact ih hbody
          split at h
          · cases h
          · next hquote hslash _ =>
              simp only [Option.bind_eq_bind, Option.bind_eq_some_iff, Option.pure_def,
                Option.some.injEq, Prod.mk.injEq, Prod.exists] at h
              obtain ⟨ds, after, hbody, -, rfl⟩ := h
              rw [behindQuote?_plain hquote hslash]
              exact ih hbody

/-! ## Values -/

/-- Whether the text of a value is read to its end or not at all. -/
def EndsItself (style : Style) (v : Json) : Prop :=
  ∀ {fuel nesting : Nat} {rest : List Char} {w : Json} {after : List Char}, EndsNumber rest →
    value .asNumber fuel nesting (print style v ++ rest) = .ok (w, after) → after = rest

/-- Whether the text of `v` may be read as `w`. -/
def ReadFrom (style : Style) (v w : Json) : Prop :=
  ∃ fuel nesting rest after, EndsNumber rest ∧
    value .asNumber fuel nesting (print style v ++ rest) = .ok (w, after)

variable {v w : Json}

/-- What is read whatever stands behind it ends itself. -/
theorem endsItself_of_value
    (h : ∀ fuel nesting rest, EndsNumber rest →
      value .asNumber (fuel + 1) nesting (print style v ++ rest) = .ok (v, rest)) :
    EndsItself style v := by
  intro fuel nesting rest w after hrest hread
  cases fuel with
  | zero => cases hread
  | succ fuel =>
      rw [h fuel nesting rest hrest] at hread
      injection hread with hread
      injection hread with _ hread
      exact hread.symm

theorem endsItself_int (n : Int) : EndsItself style (.int n) := by
  intro fuel nesting rest w after hrest hread
  cases fuel with
  | zero => cases hread
  | succ fuel =>
      have hnumber := number?_toString n hrest
      obtain ⟨c, tail, hprint, hc⟩ := toString_opens n
      rw [print, hprint, List.cons_append, value_eq_number? hc] at hread
      rw [hprint, List.cons_append, expect_eq_ok hread] at hnumber
      obtain ⟨found, -, hpair⟩ := Option.map_eq_some_iff.mp hnumber.symm
      injection hpair with _ hbehind
      exact hbehind.symm

theorem endsItself_points (points : List Nat)
    (h : ∀ rest, print style v ++ rest =
      '"' :: (points.flatMap (escapePoint style.asciiOnly) ++ '"' :: rest)) :
    EndsItself style v := by
  intro fuel nesting rest w after hrest hread
  cases fuel with
  | zero => cases hread
  | succ fuel =>
      rw [h, value] at hread
      obtain ⟨⟨found, behind⟩, hquoted, hpair⟩ := exists_of_map_eq_ok hread
      injection hpair with _ hbehind
      have hbody := behindQuote?_textBody? (expect_eq_ok hquoted)
      rw [behindQuote?_points points rest] at hbody
      injection hbody with hbody
      rw [hbody]
      exact hbehind.symm

/-! ### Lists and objects -/

variable {fuel nesting : Nat}

theorem skipSpace_printItems (style : Style) (v : Json) (vs : List Json) (rest : List Char) :
    skipSpace (printItems style (v :: vs) ++ rest) = printItems style (v :: vs) ++ rest ∧
      ∀ tail, printItems style (v :: vs) ++ rest ≠ ']' :: tail := by
  obtain ⟨c, more, hprint, hopens⟩ := print_opens style v
  obtain ⟨behind, hitems⟩ : ∃ behind, printItems style (v :: vs) ++ rest = c :: behind := by
    cases vs with
    | nil => exact ⟨_, by rw [printItems, hprint]; rfl⟩
    | cons u us => exact ⟨_, by simp only [printItems, hprint, List.cons_append]; rfl⟩
  rw [hitems]
  refine ⟨skipSpace_cons hopens.space behind, fun tail heq => ?_⟩
  injection heq with heq
  exact hopens.bracket heq

/-- The items of a list are read to its bracket. -/
theorem items_extent (hstyle : style.IsPlain) {vs : List Json}
    (h : ∀ u ∈ v :: vs, EndsItself style u) {blanks : List Char}
    (hblanks : ∀ c ∈ blanks, isSpace c = true) {found : List Json}
    (hread : items .asNumber fuel nesting
      (blanks ++ (printItems style (v :: vs) ++ ']' :: rest)) = .ok (found, after)) :
    after = rest := by
  induction vs generalizing v fuel blanks found with
  | nil =>
      cases fuel with
      | zero => cases hread
      | succ fuel =>
          rw [items, skipSpace_append hblanks, printItems, skipSpace_print] at hread
          obtain ⟨⟨w, behind⟩, hvalue, hread⟩ := exists_of_bind_eq_ok hread
          have hends := h v List.mem_cons_self (endsNumber_cons (Or.inr (Or.inl rfl)) rest) hvalue
          subst hends
          injection hread with hread
          injection hread with _ hread
          exact hread.symm
  | cons u us ih =>
      cases fuel with
      | zero => cases hread
      | succ fuel =>
          obtain ⟨spaces, hcomma, hspaces⟩ := hstyle.comma
          rw [items, skipSpace_append hblanks] at hread
          simp only [printItems, hcomma, List.append_assoc, List.cons_append,
            skipSpace_print] at hread
          obtain ⟨⟨w, behind⟩, hvalue, hread⟩ := exists_of_bind_eq_ok hread
          have hends := h v List.mem_cons_self (endsNumber_cons (Or.inl rfl) _) hvalue
          subst hends
          simp only [skipSpace_cons (c := ',') rfl] at hread
          obtain ⟨⟨others, behind⟩, hothers, hread⟩ := exists_of_bind_eq_ok hread
          injection hread with hread
          injection hread with _ hread
          subst hread
          exact ih (fun w hw => h w (List.mem_cons_of_mem v hw)) hspaces hothers

/-- One member is read to its end; what follows it says whether there are more. -/
theorem members_member_extent (hstyle : style.IsPlain) (hv : EndsItself style v)
    {blanks : List Char} (hblanks : ∀ c ∈ blanks, isSpace c = true) {name : String}
    {earlier found : List (String × Json)} (hrest : EndsNumber rest)
    (hread : members .asNumber (fuel + 1) nesting earlier
      (blanks ++ (quote style.asciiOnly name ++ (style.colon ++ (print style v ++ rest)))) =
        .ok (found, after)) :
    ∃ w, ReadFrom style v w ∧
      (match skipSpace rest with
      | ',' :: rest => members .asNumber fuel nesting (Assoc.put name w earlier) rest
      | '}' :: rest => .ok (Assoc.put name w earlier, rest)
      | _ => .error .malformed) = .ok (found, after) := by
  obtain ⟨spaces, hcolon, hspaces⟩ := hstyle.colon
  have hopen : skipSpace (quote style.asciiOnly name ++ (style.colon ++ (print style v ++ rest))) =
      quote style.asciiOnly name ++ (style.colon ++ (print style v ++ rest)) :=
    skipSpace_cons (c := '"') rfl _
  rw [members, skipSpace_append hblanks, hopen, hcolon, memberName?_quote] at hread
  obtain ⟨⟨given, body⟩, hname, hread⟩ := exists_of_bind_eq_ok hread
  injection hname with hname
  injection hname with hgiven hbody
  subst hgiven hbody
  simp only [skipSpace_append hspaces, skipSpace_print] at hread
  obtain ⟨⟨w, behind⟩, hvalue, hmore⟩ := exists_of_bind_eq_ok hread
  have hends := hv hrest hvalue
  subst hends
  exact ⟨w, ⟨_, _, _, _, hrest, hvalue⟩, hmore⟩

/-- The members of an object are read to its brace, and no others are found. -/
theorem members_extent (hstyle : style.IsPlain) {m : String × Json} {ms : List (String × Json)}
    (h : ∀ p ∈ m :: ms, EndsItself style p.2) {blanks : List Char}
    (hblanks : ∀ c ∈ blanks, isSpace c = true) {earlier found : List (String × Json)}
    (hread : members .asNumber fuel nesting earlier
      (blanks ++ (printMembers style (m :: ms) ++ '}' :: rest)) = .ok (found, after)) :
    after = rest ∧
      ∀ p ∈ found, p ∈ earlier ∨ ∃ q ∈ m :: ms, q.1 = p.1 ∧ ReadFrom style q.2 p.2 := by
  induction ms generalizing m fuel blanks earlier with
  | nil =>
      cases fuel with
      | zero => cases hread
      | succ fuel =>
          obtain ⟨name, v⟩ := m
          simp only [printMembers, List.append_assoc] at hread
          obtain ⟨w, hw, hread⟩ := members_member_extent hstyle (h (name, v) List.mem_cons_self)
            hblanks (endsNumber_cons (Or.inr (Or.inr rfl)) rest) hread
          simp only [skipSpace_cons (c := '}') rfl] at hread
          injection hread with hread
          injection hread with hfound hafter
          subst hfound
          refine ⟨hafter.symm, fun p hp => ?_⟩
          rcases Assoc.mem_of_mem_put hp with rfl | hp
          · exact Or.inr ⟨(name, v), List.mem_cons_self, rfl, hw⟩
          · exact Or.inl hp
  | cons q qs ih =>
      cases fuel with
      | zero => cases hread
      | succ fuel =>
          obtain ⟨name, v⟩ := m
          obtain ⟨spaces, hcomma, hspaces⟩ := hstyle.comma
          simp only [printMembers, hcomma, List.append_assoc, List.cons_append] at hread
          obtain ⟨w, hw, hread⟩ := members_member_extent hstyle (h (name, v) List.mem_cons_self)
            hblanks (endsNumber_cons (Or.inl rfl) _) hread
          simp only [skipSpace_cons (c := ',') rfl] at hread
          obtain ⟨hafter, hfound⟩ := ih (fun p hp => h p (List.mem_cons_of_mem _ hp)) hspaces hread
          refine ⟨hafter, fun p hp => ?_⟩
          rcases hfound p hp with hearlier | ⟨q', hq', hothers⟩
          · rcases Assoc.mem_of_mem_put hearlier with rfl | hp
            · exact Or.inr ⟨(name, v), List.mem_cons_self, rfl, hw⟩
            · exact Or.inl hp
          · exact Or.inr ⟨q', List.mem_cons_of_mem _ hq', hothers⟩

theorem endsItself_arr (hstyle : style.IsPlain) {vs : List Json}
    (h : ∀ v ∈ vs, EndsItself style v) : EndsItself style (.arr vs) := by
  intro fuel nesting rest w after hrest hread
  cases fuel with
  | zero => cases hread
  | succ fuel =>
      simp only [print, List.cons_append, List.append_assoc, List.nil_append] at hread
      rw [value.eq_def] at hread
      simp only at hread
      split at hread
      · cases hread
      · cases vs with
        | nil =>
            injection hread with hread
            injection hread with _ hread
            exact hread.symm
        | cons v vs =>
            obtain ⟨hskip, hbracket⟩ := skipSpace_printItems style v vs (']' :: rest)
            rw [hskip] at hread
            split at hread
            · next heq => exact (hbracket _ heq).elim
            · obtain ⟨⟨found, behind⟩, hitems, hpair⟩ := exists_of_map_eq_ok hread
              injection hpair with _ hbehind
              subst hbehind
              exact items_extent hstyle h (fun c hc => absurd hc List.not_mem_nil) hitems

/-- An object is read as one that has no other members than those that were written. -/
theorem value_obj_extent (hstyle : style.IsPlain) {ms : List (String × Json)}
    (h : ∀ m ∈ ms, EndsItself style m.2)
    (hread : value .asNumber fuel nesting (print style (.obj ms) ++ rest) = .ok (w, after)) :
    after = rest ∧ ∃ found, w = .obj found ∧
      ∀ p ∈ found, ∃ q ∈ ms, q.1 = p.1 ∧ ReadFrom style q.2 p.2 := by
  cases fuel with
  | zero => cases hread
  | succ fuel =>
      simp only [print, List.cons_append, List.append_assoc, List.nil_append] at hread
      rw [value.eq_def] at hread
      simp only at hread
      split at hread
      · cases hread
      · cases ms with
        | nil =>
            injection hread with hread
            injection hread with hw hafter
            exact ⟨hafter.symm, [], hw.symm, fun p hp => absurd hp List.not_mem_nil⟩
        | cons m ms =>
            obtain ⟨more, hmore⟩ :
                ∃ more, printMembers style (m :: ms) ++ '}' :: rest = '"' :: more := by
              cases ms with
              | nil => exact ⟨_, by simp only [printMembers, quote, List.cons_append]; rfl⟩
              | cons p ps => exact ⟨_, by simp only [printMembers, quote, List.cons_append]; rfl⟩
            rw [hmore, skipSpace_cons (c := '"') rfl] at hread
            obtain ⟨⟨found, behind⟩, hmembers, hpair⟩ := exists_of_map_eq_ok hread
            injection hpair with hw hbehind
            subst hw hbehind
            rw [← hmore] at hmembers
            obtain ⟨hafter, hfound⟩ := members_extent hstyle h
              (fun c (hc : c ∈ []) => absurd hc List.not_mem_nil) hmembers
            exact ⟨hafter, found, rfl, fun p hp => (hfound p hp).resolve_left List.not_mem_nil⟩

mutual

/-- The text of every value ends itself. -/
theorem endsItself (hstyle : style.IsPlain) : ∀ v : Json, EndsItself style v
  | .null => endsItself_of_value fun _ _ _ _ => rfl
  | .bool true => endsItself_of_value fun _ _ _ _ => rfl
  | .bool false => endsItself_of_value fun _ _ _ _ => rfl
  | .int n => endsItself_int n
  | .float x => endsItself_of_value fun _ _ _ hrest => floatText_reads x hrest
  | .str s => endsItself_points (s.toList.map Char.toNat) fun rest => by
      rw [print, quote_append]
  | .unpaired points => endsItself_points points fun rest => by
      simp only [print, List.cons_append, List.append_assoc, List.nil_append]
  | .arr items => endsItself_arr hstyle (endsItself_items hstyle items)
  | .obj members => fun _ hread =>
      (value_obj_extent hstyle (endsItself_members hstyle members) hread).1

theorem endsItself_items (hstyle : style.IsPlain) :
    ∀ vs : List Json, ∀ v ∈ vs, EndsItself style v
  | [] => List.forall_mem_nil _
  | v :: vs => List.forall_mem_cons.mpr ⟨endsItself hstyle v, endsItself_items hstyle vs⟩

theorem endsItself_members (hstyle : style.IsPlain) :
    ∀ ms : List (String × Json), ∀ m ∈ ms, EndsItself style m.2
  | [] => List.forall_mem_nil _
  | (_, v) :: ms =>
      List.forall_mem_cons.mpr ⟨endsItself hstyle v, endsItself_members hstyle ms⟩

end

/-- What the text of an object is read as, if it is read, has no other members. -/
theorem read_print_obj (hstyle : style.IsPlain) {ms : List (String × Json)}
    (h : read .asNumber nesting (print style (.obj ms)) = .ok w) :
    ∃ found, w = .obj found ∧ ∀ p ∈ found, ∃ q ∈ ms, q.1 = p.1 ∧ ReadFrom style q.2 p.2 := by
  have hskip := skipSpace_print style (.obj ms) []
  rw [List.append_nil] at hskip
  rw [read, hskip] at h
  obtain ⟨⟨v, behind⟩, hvalue, h⟩ := exists_of_bind_eq_ok h
  rw [← List.append_nil (print style (.obj ms))] at hvalue
  have hfound := (value_obj_extent hstyle (endsItself_members hstyle ms) hvalue).2
  simp only at h
  split at h
  · injection h with h
    rwa [← h]
  · cases h

/-! ## Texts that are not empty -/

/-- Whether a value is a text that is not empty. -/
def isFilledText : Json → Bool
  | .str s => !s.isEmpty
  | .unpaired _ => true
  | _ => false

theorem value_bracket {tail : List Char}
    (h : value .asNumber (fuel + 1) nesting ('[' :: tail) = .ok (w, after)) :
    ∃ vs, w = .arr vs := by
  rw [value.eq_def] at h
  simp only at h
  split at h
  · cases h
  · split at h
    · injection h with h
      injection h with h
      exact ⟨_, h.symm⟩
    · obtain ⟨_, -, hpair⟩ := exists_of_map_eq_ok h
      injection hpair with hw
      exact ⟨_, hw.symm⟩

theorem value_brace {tail : List Char}
    (h : value .asNumber (fuel + 1) nesting ('{' :: tail) = .ok (w, after)) :
    ∃ ms, w = .obj ms := by
  rw [value.eq_def] at h
  simp only at h
  split at h
  · cases h
  · split at h
    · injection h with h
      injection h with h
      exact ⟨_, h.symm⟩
    · obtain ⟨_, -, hpair⟩ := exists_of_map_eq_ok h
      injection hpair with hw
      exact ⟨_, hw.symm⟩

/-- A text that is not empty is read only where one was written. -/
theorem ReadFrom.isFilledText (h : ReadFrom style v w) (hw : w.isFilledText = true) :
    v.isFilledText = true := by
  obtain ⟨fuel, nesting, rest, after, hrest, hread⟩ := h
  have hsame : ∀ {found behind}, Except.ok (ε := Misread) (found, behind) = .ok (w, after) →
      found.isFilledText = true := by
    intro found behind heq
    injection heq with heq
    injection heq with heq
    rwa [heq]
  cases fuel with
  | zero => cases hread
  | succ fuel =>
      cases v with
      | null => exact hsame hread
      | bool b => cases b <;> exact hsame hread
      | int n =>
          obtain ⟨c, tail, hprint, hc⟩ := toString_opens n
          have hnumber := number?_toString n hrest
          rw [print, hprint, List.cons_append, value_eq_number? hc] at hread
          rw [hprint, List.cons_append, expect_eq_ok hread] at hnumber
          obtain ⟨found, hvalue, hpair⟩ := Option.map_eq_some_iff.mp hnumber.symm
          injection hpair with hfound
          simp only [Magnitude.value?, List.isEmpty_nil, Option.isNone_none, Bool.and_self,
            ↓reduceIte] at hvalue
          split at hvalue
          · cases hvalue
          · injection hvalue with hvalue
            rw [← hfound, ← hvalue] at hw
            exact hw
      | float x =>
          rw [print, floatText_reads x hrest] at hread
          exact hsame hread
      | str s =>
          rw [print, quote_append, value_text (isText_of_valid fun n => valid_of_mem_points),
            ofPoints_toNat] at hread
          exact hsame hread
      | unpaired points => rfl
      | arr items =>
          obtain ⟨vs, rfl⟩ := value_bracket hread
          cases hw
      | obj members =>
          obtain ⟨ms, rfl⟩ := value_brace hread
          cases hw

end Gatehouse.Json
