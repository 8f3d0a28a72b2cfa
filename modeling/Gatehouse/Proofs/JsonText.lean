import Gatehouse.Proofs.NumberText
import Gatehouse.Proofs.QuotedText

/-!
# JSON text reads back as the value it was written for

What can be read can be written and read again: `Restorable.readsBack` says so of a value
at the start of a text, by induction over the value.

Not every value is one of them. Reading keeps one member of each name, so an object must
not have two; a text never holds the two halves of a surrogate pair next to each other,
since their escapes are read as one character; whole numbers have a limited number of
digits, and lists and objects stand inside each other only to a limit. `Restorable` is
that list.
-/

namespace Gatehouse.Json

/-- Whether a style separates by a comma and a colon with nothing but blanks behind them. -/
structure Style.IsPlain (style : Style) : Prop where
  comma : ∃ blanks, style.comma = ',' :: blanks ∧ ∀ c ∈ blanks, isSpace c = true
  colon : ∃ blanks, style.colon = ':' :: blanks ∧ ∀ c ∈ blanks, isSpace c = true

theorem Style.isPlain_compactAscii : Style.compactAscii.IsPlain :=
  ⟨⟨[], rfl, List.forall_mem_nil _⟩, ⟨[], rfl, List.forall_mem_nil _⟩⟩

theorem Style.isPlain_spacedAscii : Style.spacedAscii.IsPlain :=
  ⟨⟨[' '], rfl, List.forall_mem_singleton.mpr rfl⟩, ⟨[' '], rfl, List.forall_mem_singleton.mpr rfl⟩⟩

/-- Whether JSON text gives a value back, with at most `nesting` lists and objects inside
each other. -/
inductive Restorable : Nat → Json → Prop
  | null {nesting : Nat} : Restorable nesting .null
  | bool {nesting : Nat} (b : Bool) : Restorable nesting (.bool b)
  | int {nesting : Nat} {n : Int} (h : isShort n = true) : Restorable nesting (.int n)
  | float {nesting : Nat} (x : Binary64) : Restorable nesting (.float x)
  | str {nesting : Nat} (s : String) : Restorable nesting (.str s)
  | unpaired {nesting : Nat} {points : List Nat} (htext : IsText points)
      (h : ∃ n ∈ points, ¬ n.isValidChar) : Restorable nesting (.unpaired points)
  | arr {nesting : Nat} {items : List Json} (h : ∀ v ∈ items, Restorable nesting v) :
      Restorable (nesting + 1) (.arr items)
  | obj {nesting : Nat} {members : List (String × Json)}
      (hnames : (members.map (·.1)).Nodup) (h : ∀ m ∈ members, Restorable nesting m.2) :
      Restorable (nesting + 1) (.obj members)

/-- Texts: of characters, or with halves of surrogate pairs among them, no two of which
belong together. -/
inductive IsTextValue : Json → Prop
  | str (s : String) : IsTextValue (.str s)
  | unpaired {points : List Nat} (htext : IsText points) (h : ∃ n ∈ points, ¬ n.isValidChar) :
      IsTextValue (.unpaired points)

theorem IsTextValue.restorable {v : Json} (h : IsTextValue v) (nesting : Nat) :
    Restorable nesting v := by
  cases h with
  | str s => exact .str s
  | unpaired htext h => exact .unpaired htext h

theorem Restorable.isWritable {nesting : Nat} {v : Json} (h : Restorable nesting v) :
    v.isWritable = true := by
  induction h with
  | int h => exact h
  | arr _ ih =>
      rw [Json.isWritable]
      exact areWritable_iff.mpr ih
  | obj _ _ ih =>
      rw [Json.isWritable]
      exact membersAreWritable_iff.mpr ih
  | _ => rfl

theorem IsTextValue.isWritable {v : Json} (h : IsTextValue v) : v.isWritable = true :=
  (h.restorable 0).isWritable

/-- Texts of any code points. -/
inductive IsStr : Json → Prop
  | str (s : String) : IsStr (.str s)
  | unpaired {points : List Nat} (hpoints : ∀ n ∈ points, n < 0x110000)
      (h : ∃ n ∈ points, ¬ n.isValidChar) : IsStr (.unpaired points)

theorem IsStr.isWritable {v : Json} (h : IsStr v) : v.isWritable = true := by
  cases h <;> rfl

/-- A text in which halves that belong together and stand next to each other have become the
character that they make. -/
def paired : Json → Json
  | .unpaired points => ofPoints (joinPairs points)
  | v => v

theorem isTextValue_ofPoints {points : List Nat} (h : IsText points) :
    IsTextValue (ofPoints points) := by
  rw [ofPoints]
  split
  · exact .str _
  · next hall =>
      refine .unpaired h ?_
      simpa only [List.all_eq_true, decide_eq_true_eq, not_forall, exists_prop] using hall

theorem ofPoints_of_half {points : List Nat} (h : ∃ n ∈ points, ¬ n.isValidChar) :
    ofPoints points = .unpaired points := by
  obtain ⟨n, hn, hinvalid⟩ := h
  rw [ofPoints, if_neg]
  exact fun hall => hinvalid (of_decide_eq_true (List.all_eq_true.mp hall n hn))

theorem IsStr.isTextValue_paired {v : Json} (h : IsStr v) : IsTextValue v.paired := by
  cases h with
  | str s => exact .str s
  | unpaired hpoints _ => exact isTextValue_ofPoints (isText_joinPairs hpoints)

theorem IsTextValue.paired_eq {v : Json} (h : IsTextValue v) : v.paired = v := by
  cases h with
  | str s => rfl
  | unpaired htext hhalf => rw [paired, joinPairs_of_isText htext, ofPoints_of_half hhalf]

/-- Whether the text of a value reads back as the value, whatever follows it. -/
def ReadsBack (style : Style) (nesting : Nat) (v : Json) : Prop :=
  ∀ (fuel : Nat) (rest : List Char), 2 * (print style v).length ≤ fuel → EndsNumber rest →
    value .asNumber fuel nesting (print style v ++ rest) = .ok (v, rest)

variable {style : Style} {asciiOnly : Bool} {nesting fuel : Nat} {v : Json}

theorem endsNumber_cons {c : Char} (hc : c = ',' ∨ c = ']' ∨ c = '}') (rest : List Char) :
    EndsNumber (c :: rest) := by
  intro d hd
  injection hd with hd
  subst hd
  rcases hc with rfl | rfl | rfl <;> decide

theorem endsNumber_nil : EndsNumber [] := fun _ hc => nomatch hc

theorem skipSpace_append {blanks : List Char} (h : ∀ c ∈ blanks, isSpace c = true)
    (cs : List Char) : skipSpace (blanks ++ cs) = skipSpace cs := by
  rw [skipSpace, List.dropWhile_append_of_pos h]
  rfl

theorem skipSpace_cons {c : Char} (hc : isSpace c = false) (cs : List Char) :
    skipSpace (c :: cs) = c :: cs := by
  rw [skipSpace, List.dropWhile_cons_of_neg]
  rw [hc]
  exact Bool.false_ne_true

/-! ### Numbers -/

theorem wholePart?_head {cs : List Char} {p : List Char × List Char} (h : wholePart? cs = some p) :
    ∃ c tail, cs = c :: tail ∧ isDigit c = true := by
  rw [wholePart?.eq_def] at h
  split at h
  · exact ⟨'0', _, rfl, rfl⟩
  · cases cs with
    | nil => cases h
    | cons c tail =>
        refine ⟨c, tail, rfl, ?_⟩
        by_contra hc
        rw [List.takeWhile_cons_of_neg hc] at h
        cases h

/-- Only a digit or a sign starts a number. -/
theorem number?_head {cs rest : List Char} (h : number? .asNumber cs = some (v, rest)) :
    ∃ c tail, cs = c :: tail ∧ (isDigit c = true ∨ c = '-') := by
  rw [number?.eq_def] at h
  cases hword : afterWord? "-Infinity".toList cs with
  | some behind =>
      cases cs with
      | nil => cases hword
      | cons c tail =>
          have hsign : '-' = c := by
            by_contra hc
            have hminus : "-Infinity".toList = '-' :: "Infinity".toList := rfl
            rw [hminus, afterWord?, if_neg hc] at hword
            cases hword
          exact ⟨c, tail, rfl, Or.inr hsign.symm⟩
  | none =>
      rw [hword] at h
      simp only at h
      split at h
      · exact ⟨'-', _, rfl, Or.inr rfl⟩
      · cases hwhole : wholePart? cs with
        | none => simp [magnitude?, hwhole] at h
        | some p =>
            obtain ⟨c, tail, hcs, hc⟩ := wholePart?_head hwhole
            exact ⟨c, tail, hcs, Or.inl hc⟩

/-- How the text of a value starts. -/
structure Opens (c : Char) : Prop where
  space : isSpace c = false
  bracket : c ≠ ']'
  brace : c ≠ '}'

theorem ne_of_number {c d : Char} (hc : isDigit c = true ∨ c = '-') (hd : isDigit d = false)
    (hsign : d ≠ '-') : c ≠ d := by
  rintro rfl
  rcases hc with hc | hc
  · exact absurd hc (by rw [hd]; exact Bool.false_ne_true)
  · exact hsign hc

theorem opens_of_number {c : Char} (hc : isDigit c = true ∨ c = '-') : Opens c := by
  have hspace : c ≠ ' ' := ne_of_number hc (by decide) (by decide)
  have htab : c ≠ '\t' := ne_of_number hc (by decide) (by decide)
  have hline : c ≠ '\n' := ne_of_number hc (by decide) (by decide)
  have hreturn : c ≠ '\r' := ne_of_number hc (by decide) (by decide)
  refine ⟨?_, ne_of_number hc (by decide) (by decide), ne_of_number hc (by decide) (by decide)⟩
  simp only [isSpace, hspace, htab, hline, hreturn, decide_false, Bool.or_false]

theorem value_eq_number? {c : Char} (hc : isDigit c = true ∨ c = '-') (tail : List Char) :
    value .asNumber (fuel + 1) nesting (c :: tail) = expect (number? .asNumber (c :: tail)) := by
  have hother : ∀ {d : Char} {more : List Char}, c :: tail = d :: more → isDigit d = false →
      d ≠ '-' → False := by
    intro d more heq hd hsign
    injection heq with heq
    exact ne_of_number hc hd hsign heq
  rw [value.eq_def]
  simp only
  split
  case h_9 => rfl
  all_goals next heq => exact (hother heq (by decide) (by decide)).elim

theorem value_number {cs rest : List Char} (h : number? .asNumber cs = some (v, rest)) :
    value .asNumber (fuel + 1) nesting cs = .ok (v, rest) := by
  obtain ⟨c, tail, rfl, hc⟩ := number?_head h
  rw [value_eq_number? hc, h]
  rfl

theorem floatText_reads (x : Binary64) {rest : List Char} (hrest : EndsNumber rest) :
    value .asNumber (fuel + 1) nesting (floatText x ++ rest) = .ok (.float x, rest) := by
  cases x with
  | nan => rfl
  | infinite negative =>
      cases negative with
      | false => rfl
      | true =>
          refine value_number ?_
          rw [number?.eq_def]
          rfl
  | finite negative m e hcanonical =>
      refine value_number ?_
      rw [floatText_finite]
      exact Binary64.number?_magnitudeText negative hcanonical hrest

theorem floatText_opens (x : Binary64) : ∃ c tail, floatText x = c :: tail ∧ Opens c := by
  cases x with
  | nan => exact ⟨'N', _, rfl, by decide, by decide, by decide⟩
  | infinite negative =>
      cases negative with
      | false => exact ⟨'I', _, rfl, by decide, by decide, by decide⟩
      | true => exact ⟨'-', _, rfl, opens_of_number (Or.inr rfl)⟩
  | finite negative m e hcanonical =>
      obtain ⟨c, tail, htext, hc⟩ :=
        number?_head (Binary64.number?_magnitudeText negative hcanonical endsNumber_nil)
      rw [List.append_nil, ← floatText_finite negative hcanonical] at htext
      exact ⟨c, tail, htext, opens_of_number hc⟩

theorem toString_opens (n : Int) :
    ∃ c tail, (toString n).toList = c :: tail ∧ (isDigit c = true ∨ c = '-') := by
  rw [toString_toList]
  split
  · exact ⟨'-', _, rfl, Or.inr rfl⟩
  · obtain ⟨c, hc, hdigit⟩ := exists_toDigits_head n.natAbs
    obtain ⟨tail, htail⟩ := List.head?_eq_some_iff.mp hc
    exact ⟨c, tail, htail, Or.inl hdigit⟩

/-- The text of every value starts like one. -/
theorem print_opens (style : Style) (v : Json) : ∃ c tail, print style v = c :: tail ∧ Opens c := by
  cases v with
  | bool b =>
      cases b with
      | false => exact ⟨'f', _, rfl, by decide, by decide, by decide⟩
      | true => exact ⟨'t', _, rfl, by decide, by decide, by decide⟩
  | int n =>
      obtain ⟨c, tail, htext, hc⟩ := toString_opens n
      exact ⟨c, tail, htext, opens_of_number hc⟩
  | float x => exact floatText_opens x
  | null => exact ⟨'n', _, rfl, by decide, by decide, by decide⟩
  | str s => exact ⟨'"', _, rfl, by decide, by decide, by decide⟩
  | unpaired points => exact ⟨'"', _, rfl, by decide, by decide, by decide⟩
  | arr items => exact ⟨'[', _, rfl, by decide, by decide, by decide⟩
  | obj members => exact ⟨'{', _, rfl, by decide, by decide, by decide⟩

theorem skipSpace_print (style : Style) (v : Json) (rest : List Char) :
    skipSpace (print style v ++ rest) = print style v ++ rest := by
  obtain ⟨c, tail, hprint, hopens⟩ := print_opens style v
  rw [hprint, List.cons_append, skipSpace_cons hopens.space]

theorem print_length_pos (style : Style) (v : Json) : 0 < (print style v).length := by
  obtain ⟨c, tail, hprint, -⟩ := print_opens style v
  rw [hprint]
  exact Nat.succ_pos _

/-! ### Lists and objects -/

/-- The items of a list read back, with blanks in front of them or not. -/
theorem items_print (hstyle : style.IsPlain) {vs : List Json}
    (h : ∀ u ∈ v :: vs, ReadsBack style nesting u)
    (hfuel : 2 * (printItems style (v :: vs)).length + 1 ≤ fuel) {blanks : List Char}
    (hblanks : ∀ c ∈ blanks, isSpace c = true) (rest : List Char) :
    items .asNumber fuel nesting (blanks ++ (printItems style (v :: vs) ++ ']' :: rest)) =
      .ok (v :: vs, rest) := by
  induction vs generalizing v fuel blanks with
  | nil =>
      obtain ⟨fuel, rfl⟩ : ∃ k, fuel = k + 1 := ⟨fuel - 1, by omega⟩
      have hv := h v List.mem_cons_self
      rw [printItems] at hfuel ⊢
      have hread := hv fuel _ (by omega) (endsNumber_cons (Or.inr (Or.inl rfl)) rest)
      rw [items, skipSpace_append hblanks, skipSpace_print, hread]
      rfl
  | cons u us ih =>
      obtain ⟨fuel, rfl⟩ : ∃ k, fuel = k + 1 := ⟨fuel - 1, by omega⟩
      obtain ⟨spaces, hcomma, hspaces⟩ := hstyle.comma
      have hv := h v List.mem_cons_self
      have hpos := print_length_pos style v
      have hprint : printItems style (v :: u :: us) ++ ']' :: rest =
          print style v ++ ',' :: (spaces ++ (printItems style (u :: us) ++ ']' :: rest)) := by
        simp only [printItems, hcomma, List.append_assoc, List.cons_append]
      have hlength : (printItems style (v :: u :: us)).length =
          (print style v).length + (spaces.length + 1) + (printItems style (u :: us)).length := by
        simp only [printItems, hcomma, List.length_append, List.length_cons]
      have hread := hv fuel _ (by omega) (endsNumber_cons (Or.inl rfl)
        (spaces ++ (printItems style (u :: us) ++ ']' :: rest)))
      have hothers := ih (fun w hw => h w (List.mem_cons_of_mem v hw)) (by omega : _ ≤ fuel) hspaces
      rw [items, hprint, skipSpace_append hblanks, skipSpace_print, hread]
      simp only [bind, Except.bind, skipSpace_cons (c := ',') rfl, hothers]
      rfl

/-- One member reads back; what follows it says whether there are more. -/
theorem members_member (hstyle : style.IsPlain) (hv : ReadsBack style nesting v)
    (hfuel : 2 * (print style v).length ≤ fuel) {blanks : List Char}
    (hblanks : ∀ c ∈ blanks, isSpace c = true) (name : String) (earlier : List (String × Json))
    {rest : List Char} (hrest : EndsNumber rest) :
    members .asNumber (fuel + 1) nesting earlier
        (blanks ++ (quote style.asciiOnly name ++ (style.colon ++ (print style v ++ rest)))) =
      match skipSpace rest with
      | ',' :: rest => members .asNumber fuel nesting (Assoc.put name v earlier) rest
      | '}' :: rest => .ok (Assoc.put name v earlier, rest)
      | _ => .error .malformed := by
  obtain ⟨spaces, hcolon, hspaces⟩ := hstyle.colon
  have hopen : skipSpace (quote style.asciiOnly name ++ (style.colon ++ (print style v ++ rest))) =
      quote style.asciiOnly name ++ (style.colon ++ (print style v ++ rest)) :=
    skipSpace_cons (c := '"') rfl _
  rw [members, skipSpace_append hblanks, hopen, hcolon, memberName?_quote]
  simp only [expect, bind, Except.bind, skipSpace_append hspaces, skipSpace_print,
    hv fuel rest hfuel hrest]
  rfl

/-- The members of an object read back and are added to those before them. -/
theorem members_print (hstyle : style.IsPlain) {m : String × Json} {ms : List (String × Json)}
    (h : ∀ p ∈ m :: ms, ReadsBack style nesting p.2)
    (hfuel : 2 * (printMembers style (m :: ms)).length + 1 ≤ fuel) {blanks : List Char}
    (hblanks : ∀ c ∈ blanks, isSpace c = true) {earlier : List (String × Json)}
    (hnames : ((earlier ++ m :: ms).map (·.1)).Nodup) (rest : List Char) :
    members .asNumber fuel nesting earlier
        (blanks ++ (printMembers style (m :: ms) ++ '}' :: rest)) =
      .ok (earlier ++ m :: ms, rest) := by
  induction ms generalizing m fuel blanks earlier with
  | nil =>
      obtain ⟨fuel, rfl⟩ : ∃ k, fuel = k + 1 := ⟨fuel - 1, by omega⟩
      obtain ⟨name, v⟩ := m
      have hv : ReadsBack style nesting v := h (name, v) List.mem_cons_self
      have hlength : (print style v).length ≤ (printMembers style [(name, v)]).length := by
        simp only [printMembers, List.length_append]
        omega
      have hnew : name ∉ earlier.map (·.1) := by
        rw [List.map_append, List.nodup_append] at hnames
        exact fun hmem => hnames.2.2 name hmem name List.mem_cons_self rfl
      have hread := members_member hstyle hv (by omega : _ ≤ fuel) hblanks name earlier
        (endsNumber_cons (Or.inr (Or.inr rfl)) rest)
      simp only [printMembers, List.append_assoc]
      rw [hread, skipSpace_cons (c := '}') rfl, Assoc.put_of_not_mem hnew]
      rfl
  | cons p ps ih =>
      obtain ⟨fuel, rfl⟩ : ∃ k, fuel = k + 1 := ⟨fuel - 1, by omega⟩
      obtain ⟨spaces, hcomma, hspaces⟩ := hstyle.comma
      obtain ⟨name, v⟩ := m
      have hv : ReadsBack style nesting v := h (name, v) List.mem_cons_self
      have hlength : (print style v).length + 1 + (printMembers style (p :: ps)).length ≤
          (printMembers style ((name, v) :: p :: ps)).length := by
        simp only [printMembers, hcomma, List.length_append, List.length_cons]
        omega
      have hnew : name ∉ earlier.map (·.1) := by
        rw [List.map_append, List.nodup_append] at hnames
        exact fun hmem => hnames.2.2 name hmem name List.mem_cons_self rfl
      have hpos := print_length_pos style v
      have hread := members_member hstyle hv (by omega : _ ≤ fuel) hblanks name earlier
        (endsNumber_cons (Or.inl rfl) (spaces ++ (printMembers style (p :: ps) ++ '}' :: rest)))
      have hnames' : (((earlier ++ [(name, v)]) ++ p :: ps).map (·.1)).Nodup := by
        rwa [List.append_assoc]
      have hothers := ih (fun q hq => h q (List.mem_cons_of_mem _ hq)) (by omega : _ ≤ fuel)
        hspaces hnames'
      simp only [printMembers, hcomma, List.append_assoc, List.cons_append]
      rw [hread, skipSpace_cons (c := ',') rfl, Assoc.put_of_not_mem hnew]
      rw [List.append_assoc] at hothers
      exact hothers

theorem value_arr (hstyle : style.IsPlain) {vs : List Json}
    (h : ∀ v ∈ vs, ReadsBack style nesting v)
    (hfuel : 2 * (printItems style vs).length + 1 ≤ fuel) (rest : List Char) :
    value .asNumber (fuel + 1) (nesting + 1) ('[' :: (printItems style vs ++ ']' :: rest)) =
      .ok (.arr vs, rest) := by
  cases vs with
  | nil => rfl
  | cons v vs =>
      have hitems := items_print hstyle h hfuel (fun c (hc : c ∈ []) => nomatch hc) rest
      obtain ⟨c, tail, hprint, hopens⟩ := print_opens style v
      obtain ⟨more, hmore⟩ : ∃ more, printItems style (v :: vs) ++ ']' :: rest = c :: more := by
        cases vs with
        | nil => exact ⟨tail ++ ']' :: rest, by simp only [printItems, hprint, List.cons_append]⟩
        | cons u us => exact ⟨_, by simp only [printItems, hprint, List.cons_append]; rfl⟩
      rw [List.nil_append, hmore] at hitems
      rw [hmore, value.eq_def]
      simp only [skipSpace_cons hopens.space]
      split
      · next heq =>
          injection heq with heq
          exact absurd heq hopens.bracket
      · rw [hitems]
        rfl

theorem value_obj (hstyle : style.IsPlain) {ms : List (String × Json)}
    (h : ∀ m ∈ ms, ReadsBack style nesting m.2) (hnames : (ms.map (·.1)).Nodup)
    (hfuel : 2 * (printMembers style ms).length + 1 ≤ fuel) (rest : List Char) :
    value .asNumber (fuel + 1) (nesting + 1) ('{' :: (printMembers style ms ++ '}' :: rest)) =
      .ok (.obj ms, rest) := by
  cases ms with
  | nil => rfl
  | cons m ms =>
      have hmembers : members .asNumber fuel nesting []
          ([] ++ (printMembers style (m :: ms) ++ '}' :: rest)) = .ok ([] ++ m :: ms, rest) :=
        members_print hstyle h hfuel (fun c hc => absurd hc List.not_mem_nil) hnames rest
      obtain ⟨more, hmore⟩ : ∃ more, printMembers style (m :: ms) ++ '}' :: rest = '"' :: more := by
        cases ms with
        | nil => exact ⟨_, by simp only [printMembers, quote, List.cons_append]; rfl⟩
        | cons p ps => exact ⟨_, by simp only [printMembers, quote, List.cons_append]; rfl⟩
      rw [List.nil_append, hmore] at hmembers
      rw [hmore, value.eq_def]
      simp only [skipSpace_cons (c := '"') rfl]
      split
      · next heq =>
          injection heq with heq
          exact absurd heq (by decide)
      · rw [hmembers]
        rfl

/-- What is read whatever follows it and with the least fuel reads back. -/
theorem readsBack_of_value
    (h : ∀ fuel rest, EndsNumber rest →
      value .asNumber (fuel + 1) nesting (print style v ++ rest) = .ok (v, rest)) :
    ReadsBack style nesting v := by
  intro fuel rest hfuel hrest
  have hpos := print_length_pos style v
  obtain ⟨fuel, rfl⟩ : ∃ k, fuel = k + 1 := ⟨fuel - 1, by omega⟩
  exact h fuel rest hrest

/-- A text is written point by point, with halves among its points or without. -/
theorem print_ofPoints (style : Style) (points : List Nat) :
    print style (ofPoints points) =
      '"' :: points.flatMap (escapePoint style.asciiOnly) ++ ['"'] := by
  rw [ofPoints]
  split
  · next hall =>
      have hpoints : (points.map Char.ofNat).map Char.toNat = points := by
        rw [List.map_map, List.map_congr_left (g := id), List.map_id]
        intro n hn
        exact Text.toNat_ofNat (of_decide_eq_true (List.all_eq_true.mp hall n hn))
      have hquote := quote_append style.asciiOnly (String.ofList (points.map Char.ofNat)) []
      rw [List.append_nil, String.toList_ofList, hpoints] at hquote
      rw [print, hquote]
      rfl
  · rw [print]

/-- In ASCII a text is not told from what it reads back as. -/
theorem print_paired (v : Json) : print .compactAscii v.paired = print .compactAscii v := by
  cases v with
  | unpaired points =>
      rw [paired, print_ofPoints, print]
      exact congrArg (fun body => '"' :: body ++ ['"']) (escape_joinPairs points)
  | _ => rfl

theorem value_text {numbers : NumberReading} {points : List Nat} (htext : IsText points)
    (rest : List Char) :
    value numbers (fuel + 1) nesting
        ('"' :: (points.flatMap (escapePoint asciiOnly) ++ '"' :: rest)) =
      .ok (ofPoints points, rest) := by
  rw [value, quoted?_points htext]
  rfl

/-- Every restorable value reads back. -/
theorem Restorable.readsBack (hstyle : style.IsPlain) (h : Restorable nesting v) :
    ReadsBack style nesting v := by
  induction h with
  | null => exact readsBack_of_value fun _ _ _ => rfl
  | bool b =>
      cases b with
      | false => exact readsBack_of_value fun _ _ _ => rfl
      | true => exact readsBack_of_value fun _ _ _ => rfl
  | int hshort =>
      exact readsBack_of_value fun _ _ hrest => value_number (number?_int hshort hrest)
  | float x => exact readsBack_of_value fun _ _ hrest => floatText_reads x hrest
  | str s =>
      refine readsBack_of_value fun _ _ _ => ?_
      rw [print, quote_append, value_text (isText_of_valid fun n => valid_of_mem_points),
        ofPoints_toNat]
  | unpaired htext hhalf =>
      refine readsBack_of_value fun _ _ _ => ?_
      rw [print, List.append_assoc, List.cons_append, List.singleton_append, value_text htext,
        ofPoints_of_half hhalf]
  | arr h ih =>
      intro fuel rest hfuel _
      simp only [print, List.cons_append, List.append_assoc, List.nil_append, List.length_cons,
        List.length_append, List.length_nil] at hfuel ⊢
      obtain ⟨fuel, rfl⟩ : ∃ k, fuel = k + 1 := ⟨fuel - 1, by omega⟩
      exact value_arr hstyle ih (by omega) rest
  | obj hnames h ih =>
      intro fuel rest hfuel _
      simp only [print, List.cons_append, List.append_assoc, List.nil_append, List.length_cons,
        List.length_append, List.length_nil] at hfuel ⊢
      obtain ⟨fuel, rfl⟩ : ∃ k, fuel = k + 1 := ⟨fuel - 1, by omega⟩
      exact value_obj hstyle ih hnames (by omega) rest

/-- A whole text reads back. -/
theorem Restorable.read_print (hstyle : style.IsPlain) (h : Restorable nesting v) :
    read .asNumber nesting (print style v) = .ok v := by
  have hreads := h.readsBack hstyle
  have hskip := skipSpace_print style v []
  have hread := hreads (2 * (print style v).length + 2) [] (by omega) endsNumber_nil
  rw [List.append_nil] at hskip hread
  rw [read, hskip, hread]
  rfl

end Gatehouse.Json
