import Gatehouse.Proofs.SmallLetters
import Gatehouse.Route.Listing
import Gatehouse.Text.Blank
import Gatehouse.Text.Search
import Mathlib.Data.List.Forall2
import Mathlib.Data.List.TakeWhile

/-!
# The printed table can be read back

A listing is made for people, but nothing of it is lost: the lines are the entries in their
order, the cells stand in columns, and whoever knows that verbs and paths have no blanks can
cut each line into its cells again. The widths of the columns depend on all the rows, and the
reader does not need them. It goes by blanks alone: the first two cells are words, so each
ends at the first blank behind it, and the third, which may have blanks of its own, begins
with a letter and is all that is left. So a listing has one table of cells, and two tables
with the same text have the same cells.

Verbs are shown in capitals, and it takes the whole table of letters to see that no capital
is or has a blank where the letter had none. A line ends at a line feed; role names are free
of line feeds by assumption, and if they are free of all that anyone takes for the end of a
line, the lines are the same for those who look for that.
-/

namespace Gatehouse.Text

variable {c : Char} {s : String}

/-- A text without blanks that is not empty. -/
def IsWord (s : String) : Prop := s ≠ "" ∧ ∀ c ∈ s.toList, isBlank c = false

theorem none_of_all {p : Char → Bool} {cs : List Char} (h : (cs.all fun c => !p c) = true) :
    ∀ c ∈ cs, p c = false := by
  intro c hc
  simpa using List.all_eq_true.mp h c hc

theorem isWord_of_all (hne : s ≠ "") (h : (s.toList.all fun c => !isBlank c) = true) :
    IsWord s :=
  ⟨hne, none_of_all h⟩

/-! ## Capitals have no blanks -/

/-- A range of blanks as a run that leaves them where they are. -/
def blankRun (r : Nat × Nat) : CaseRun := ⟨r.1, r.2, 1, 0⟩

theorem upperRuns_apart_blanks :
    (upperRuns.all fun r => Nat.blt 0 r.landing.first &&
      blankRanges.all fun b => r.landing.isApart (blankRun b)) = true := by
  decide +kernel

theorem upperExpansions_words :
    (upperExpansions.all fun p =>
      !p.2.isEmpty && p.2.all fun n => !isBlank (Char.ofNat n)) = true := by
  rfl

theorem isBlank_toUpper_ascii :
    ∀ n : Fin 0x80, isBlank (Char.ofNat n) = false → isBlank (Char.ofNat n).toUpper = false := by
  decide +kernel

theorem blankRun_holds {b : Nat × Nat} {n : Nat} (hlo : b.1 ≤ n) (hhi : n ≤ b.2) :
    (blankRun b).Holds n :=
  ⟨hlo, hhi, Nat.mod_one _⟩

/-- A run of the table leads to no blank. -/
theorem isBlank_of_target {r : CaseRun} (hr : r ∈ upperRuns) {n t : Nat}
    (h : r.target? n = some t) : isBlank (Char.ofNat t) = false := by
  have hapart := List.all_eq_true.mp upperRuns_apart_blanks r hr
  rw [Bool.and_eq_true, Nat.blt_eq] at hapart
  obtain ⟨hpos, hapart⟩ := hapart
  have hon : r.landing.Holds t := CaseRun.landing_holds hpos h
  by_cases hvalid : t.isValidChar
  · have hchar : (Char.ofNat t).toNat = t := by
      rw [Char.ofNat, dif_pos hvalid]
      rfl
    refine List.any_eq_false.mpr fun b hb => ?_
    rw [hchar, Bool.and_eq_true, decide_eq_true_eq, decide_eq_true_eq]
    rintro ⟨hlo, hhi⟩
    exact CaseRun.not_holds_of_isApart (List.all_eq_true.mp hapart b hb) hon
      (blankRun_holds hlo hhi)
  -- A code point that is no character stands for the null character.
  · rw [Char.ofNat, dif_neg hvalid]
    decide

theorem upperChar_word (hc : isBlank c = false) :
    upperChar c ≠ [] ∧ ∀ d ∈ upperChar c, isBlank d = false := by
  unfold upperChar
  split
  · next hascii =>
      have h := isBlank_toUpper_ascii ⟨c.toNat, hascii⟩
      rw [Char.ofNat_toNat] at h
      exact ⟨List.cons_ne_nil _ _, List.forall_mem_singleton.mpr (h hc)⟩
  · split
    · next cs hcs =>
        obtain ⟨before, after, hsplit, -⟩ := List.lookup_eq_some_iff.mp hcs
        have hmem : (c.toNat, cs) ∈ upperExpansions := by
          rw [hsplit]
          exact List.mem_append_right _ List.mem_cons_self
        have hword := List.all_eq_true.mp upperExpansions_words _ hmem
        rw [Bool.and_eq_true, Bool.not_eq_true', List.isEmpty_eq_false_iff,
          List.all_eq_true] at hword
        refine ⟨fun hnil => hword.1 (List.map_eq_nil_iff.mp hnil), fun d hd => ?_⟩
        obtain ⟨n, hn, rfl⟩ := List.mem_map.mp hd
        simpa using hword.2 n hn
    · refine ⟨List.cons_ne_nil _ _, List.forall_mem_singleton.mpr ?_⟩
      rw [mapRuns]
      cases hrun : upperRuns.findSome? (·.target? c.toNat) with
      | none => rwa [Option.getD_none, Char.ofNat_toNat]
      | some t =>
          obtain ⟨r, hr, ht⟩ := List.exists_of_findSome?_eq_some hrun
          exact isBlank_of_target hr ht

theorem IsWord.upper (h : IsWord s) : IsWord (upper s) := by
  obtain ⟨hne, hblank⟩ := h
  refine ⟨fun hnil => ?_, fun d hd => ?_⟩
  · rw [Text.upper, ← String.toList_eq_nil_iff, String.toList_ofList, List.flatMap_eq_nil_iff] at hnil
    obtain ⟨c, rest, hs⟩ := List.exists_cons_of_ne_nil fun h => hne (String.toList_eq_nil_iff.mp h)
    have hc : c ∈ s.toList := hs ▸ List.mem_cons_self
    exact (upperChar_word (hblank c hc)).1 (hnil c hc)
  · rw [Text.upper, String.toList_ofList] at hd
    obtain ⟨c, hc, hd⟩ := List.mem_flatMap.mp hd
    exact (upperChar_word (hblank c hc)).2 d hd

/-! ## Lines -/

/-- The characters at which a line may end: feeds and returns, the separators of records, the
next line, and the separators of lines and paragraphs. -/
def lineBreakRanges : List (Nat × Nat) :=
  [(0xa, 0xd), (0x1c, 0x1e), (0x85, 0x85), (0x2028, 0x2029)]

def isLineBreak (c : Char) : Bool := inRanges lineBreakRanges c.toNat

/-- The lines of a text. A return and the feed behind it end one line, and behind a break at
the end of the text there is no line. -/
def lines : List Char → List (List Char)
  | [] => []
  | c :: rest =>
    if c = '\r' ∧ rest.head? = some '\n' then lines rest
    else if isLineBreak c then [] :: lines rest
    else match lines rest with
      | [] => [[c]]
      | line :: more => (c :: line) :: more

theorem isBlank_of_isLineBreak (h : isLineBreak c = true) : isBlank c = true := by
  simp only [isLineBreak, inRanges, lineBreakRanges, isBlank, blankRanges, List.any_cons,
    List.any_nil, Bool.or_false, Bool.or_eq_true, Bool.and_eq_true, decide_eq_true_eq] at h ⊢
  omega

theorem lines_feed (rest : List Char) : lines ('\n' :: rest) = [] :: lines rest := by
  rw [lines, if_neg (fun h => absurd h.1 (by decide)), if_pos (by decide)]

theorem lines_cons {rest : List Char} (hc : isLineBreak c = false) :
    lines (c :: rest) = match lines rest with
      | [] => [[c]]
      | line :: more => (c :: line) :: more := by
  have hreturn : c ≠ '\r' := by
    rintro rfl
    cases hc
  rw [lines, if_neg fun h => hreturn h.1, if_neg (by rw [hc]; exact Bool.false_ne_true)]

theorem lines_append_feed {line : List Char} (hline : ∀ c ∈ line, isLineBreak c = false)
    (rest : List Char) : lines (line ++ '\n' :: rest) = line :: lines rest := by
  induction line with
  | nil => exact lines_feed rest
  | cons c line ih =>
      obtain ⟨hc, hline⟩ := List.forall_mem_cons.mp hline
      rw [List.cons_append, lines_cons hc, ih hline]

theorem lines_eq_singleton {line : List Char} (hne : line ≠ [])
    (hline : ∀ c ∈ line, isLineBreak c = false) : lines line = [line] := by
  induction line with
  | nil => exact absurd rfl hne
  | cons c line ih =>
      obtain ⟨hc, hline⟩ := List.forall_mem_cons.mp hline
      rw [lines_cons hc]
      cases line with
      | nil => rfl
      | cons d line => rw [ih (List.cons_ne_nil d line) hline]

theorem lines_intercalate {ls : List (List Char)}
    (h : ∀ line ∈ ls, line ≠ [] ∧ ∀ c ∈ line, isLineBreak c = false) :
    lines (['\n'].intercalate ls) = ls := by
  induction ls with
  | nil => rfl
  | cons line ls ih =>
      obtain ⟨⟨hne, hline⟩, hrest⟩ := List.forall_mem_cons.mp h
      cases ls with
      | nil => rw [List.intercalate_singleton, lines_eq_singleton hne hline]
      | cons next ls =>
          rw [List.intercalate_cons_cons, List.append_assoc, List.singleton_append,
            lines_append_feed hline, ih hrest]

/-! ## Words between blanks -/

def blanks (n : Nat) : List Char := List.replicate n ' '

/-- The first word of a text, up to the next blank, and the text behind it. -/
def nextWord (cs : List Char) : List Char × List Char :=
  ((cs.dropWhile (· == ' ')).takeWhile (· != ' '), (cs.dropWhile (· == ' ')).dropWhile (· != ' '))

theorem IsWord.ne_blank (h : IsWord s) : ∀ c ∈ s.toList, c ≠ ' ' := by
  rintro c hc rfl
  cases h.2 ' ' hc

theorem dropWhile_blanks {n : Nat} {cs : List Char} (hhead : cs.head? ≠ some ' ') :
    (blanks n ++ cs).dropWhile (· == ' ') = cs :=
  dropWhile_marks (fun _ => List.eq_of_mem_replicate) hhead

theorem nextWord_blanks (h : IsWord s) {n gap : Nat} (hgap : 0 < gap) (rest : List Char) :
    nextWord (blanks n ++ (s.toList ++ (blanks gap ++ rest))) = (s.toList, blanks gap ++ rest) := by
  have hword : ∀ c ∈ s.toList, (c != ' ') = true := fun c hc => bne_iff_ne.mpr (h.ne_blank c hc)
  obtain ⟨c, cs, hs⟩ := List.exists_cons_of_ne_nil fun hnil => h.1 (String.toList_eq_nil_iff.mp hnil)
  have hhead : (s.toList ++ (blanks gap ++ rest)).head? ≠ some ' ' := by
    rw [hs]
    intro hc
    exact h.ne_blank ' ' (by rw [hs, Option.some.inj hc]; exact List.mem_cons_self) rfl
  obtain ⟨gap, rfl⟩ := Nat.exists_eq_succ_of_ne_zero (Nat.ne_of_gt hgap)
  rw [nextWord, dropWhile_blanks hhead, List.takeWhile_append_of_pos hword,
    List.dropWhile_append_of_pos hword]
  simp [blanks, List.replicate_succ]

end Gatehouse.Text

namespace Gatehouse

variable {κ : Type} {isBreak : Char → Bool}

/-- An entry whose verb and path are words and whose roles have none of certain breaks. -/
structure RouteEntry.Legible (isBreak : Char → Bool) (e : RouteEntry κ) : Prop where
  verb : Text.IsWord e.verb
  path : Text.IsWord e.path
  roles : ∀ roles, e.policy.roles = some roles → ∀ r ∈ roles, ∀ c ∈ r.toList, isBreak c = false

/-- Where all breaks are blanks, what is no blank is no break. -/
theorem unbroken_of_not_blank (hblank : ∀ c, isBreak c = true → Text.isBlank c = true) {c : Char}
    (hc : Text.isBlank c = false) : isBreak c = false := by
  cases hbreak : isBreak c with
  | false => rfl
  | true => rw [← hc, hblank c hbreak]

/-- Among the line breaks is the feed. -/
theorem RouteEntry.Legible.of_lineBreaks {e : RouteEntry κ} (h : e.Legible Text.isLineBreak) :
    e.Legible (· == '\n') where
  verb := h.verb
  path := h.path
  roles roles hroles r hr c hc := by
    rw [beq_eq_false_iff_ne]
    rintro rfl
    cases h.roles roles hroles r hr '\n' hc

/-! ## Policies in a few words -/

theorem mem_intercalate {c : Char} {sep : List Char} {ls : List (List Char)}
    (h : c ∈ sep.intercalate ls) : c ∈ sep ∨ ∃ l ∈ ls, c ∈ l := by
  induction ls with
  | nil => cases h
  | cons l ls ih =>
      cases ls with
      | nil =>
          rw [List.intercalate_singleton] at h
          exact .inr ⟨l, List.mem_cons_self, h⟩
      | cons next ls =>
          rw [List.intercalate_cons_cons, List.mem_append, List.mem_append] at h
          rcases h with (h | h) | h
          · exact .inr ⟨l, List.mem_cons_self, h⟩
          · exact .inl h
          · exact (ih h).imp_right fun ⟨l', hl', hc⟩ => ⟨l', List.mem_cons_of_mem l hl', hc⟩

/-- A description begins with a letter. -/
theorem Policy.describe_head (p : Policy) :
    ∃ c ∈ p.describe.toList.head?, Text.isBlank c = false := by
  rw [Policy.describe]
  split
  · exact ⟨'p', rfl, by decide⟩
  · split
    · exact ⟨'a', rfl, by decide⟩
    · rw [String.toList_append]
      exact ⟨'r', rfl, by decide⟩

theorem Policy.describe_unbroken (hblank : ∀ c, isBreak c = true → Text.isBlank c = true)
    {p : Policy}
    (hroles : ∀ roles, p.roles = some roles → ∀ r ∈ roles, ∀ c ∈ r.toList, isBreak c = false) :
    ∀ c ∈ p.describe.toList, isBreak c = false := by
  have hplain : ∀ {cs : List Char}, (cs.all fun c => !Text.isBlank c) = true →
      ∀ c ∈ cs, isBreak c = false := fun hall c hc =>
    unbroken_of_not_blank hblank (Text.none_of_all hall c hc)
  rw [Policy.describe]
  split
  · exact hplain (by decide)
  · split
    · exact hplain (by decide)
    · next roles hsome =>
        intro c hc
        rw [String.toList_append, String.toList_intercalate, List.mem_append] at hc
        rcases hc with hc | hc
        · exact hplain (by decide) c hc
        · rcases mem_intercalate hc with hc | ⟨cs, hcs, hc⟩
          · exact hplain (by decide) c hc
          · obtain ⟨r, hr, rfl⟩ := List.mem_map.mp hcs
            exact hroles roles hsome r hr c hc

namespace RouteTable

variable {t : RouteTable κ} {e : RouteEntry κ} {cells : String × String × String}

/-! ## Columns -/

/-- How wide the verbs of a table are. -/
def verbWidth (t : RouteTable κ) : Nat := width ((t.map row).map (·.1))

/-- How wide the paths of a table are. -/
def pathWidth (t : RouteTable κ) : Nat := width ((t.map row).map (·.2.1))

/-- Where the paths begin. -/
def pathColumn (t : RouteTable κ) : Nat := 4 + t.verbWidth

/-- Where the policies begin. -/
def policyColumn (t : RouteTable κ) : Nat := t.pathColumn + 2 + t.pathWidth

/-- A line whose cells begin behind two blanks, at `pathAt` and at `policyAt`, with blanks
between them, two at least. -/
structure InColumns (pathAt policyAt : Nat) (cells : String × String × String)
    (line : List Char) : Prop where
  verb_apart : 2 + cells.1.length + 2 ≤ pathAt
  path_apart : pathAt + cells.2.1.length + 2 ≤ policyAt
  eq_cells : line = Text.blanks 2 ++ (cells.1.toList ++
    (Text.blanks (pathAt - (2 + cells.1.length)) ++ (cells.2.1.toList ++
      (Text.blanks (policyAt - (pathAt + cells.2.1.length)) ++ cells.2.2.toList))))

/-- The line of an entry in the listing of a table. -/
def lineOf (t : RouteTable κ) (e : RouteEntry κ) : List Char :=
  (line t.verbWidth t.pathWidth (row e)).toList

theorem length_le_width {s : String} {texts : List String} (h : s ∈ texts) :
    s.length ≤ width texts := by
  have hfold : ∀ (texts : List String) (n : Nat),
      n ≤ texts.foldl (fun w s => max w s.length) n ∧
        ∀ s ∈ texts, s.length ≤ texts.foldl (fun w s => max w s.length) n := by
    intro texts
    induction texts with
    | nil => exact fun n => ⟨Nat.le_refl n, List.forall_mem_nil _⟩
    | cons s texts ih =>
        intro n
        obtain ⟨hle, hall⟩ := ih (max n s.length)
        exact ⟨Nat.le_trans (Nat.le_max_left _ _) hle,
          List.forall_mem_cons.mpr ⟨Nat.le_trans (Nat.le_max_right _ _) hle, hall⟩⟩
  exact (hfold texts 0).2 s h

theorem toList_fill (w : Nat) (s : String) :
    (fill w s).toList = s.toList ++ Text.blanks (w - s.length) := by
  rw [fill, String.toList_append, String.toList_ofList]
  rfl

theorem toList_line (verbWidth pathWidth : Nat) (cells : String × String × String) :
    (line verbWidth pathWidth cells).toList =
      Text.blanks 2 ++ (cells.1.toList ++ (Text.blanks (verbWidth - cells.1.length + 2) ++
        (cells.2.1.toList ++ (Text.blanks (pathWidth - cells.2.1.length + 2) ++
          cells.2.2.toList)))) := by
  have hgap : ∀ n, Text.blanks (n + 2) = Text.blanks n ++ "  ".toList := fun n =>
    List.replicate_add n 2 ' '
  simp only [line, String.toList_append, toList_fill, hgap, List.append_assoc]
  rfl

theorem inColumns_lineOf (he : e ∈ t) :
    InColumns t.pathColumn t.policyColumn (row e) (t.lineOf e) := by
  have hverb : (row e).1.length ≤ t.verbWidth :=
    length_le_width (List.mem_map_of_mem (List.mem_map_of_mem he))
  have hpath : (row e).2.1.length ≤ t.pathWidth :=
    length_le_width (List.mem_map_of_mem (List.mem_map_of_mem he))
  have hfirst : t.pathColumn - (2 + (row e).1.length) = t.verbWidth - (row e).1.length + 2 := by
    rw [pathColumn]
    omega
  have hsecond : t.policyColumn - (t.pathColumn + (row e).2.1.length) =
      t.pathWidth - (row e).2.1.length + 2 := by
    rw [policyColumn]
    omega
  refine ⟨?_, ?_, ?_⟩
  · rw [pathColumn]
    omega
  · rw [policyColumn]
    omega
  · rw [lineOf, toList_line, hfirst, hsecond]

theorem InColumns.ne_nil {pathAt policyAt : Nat} {l : List Char}
    (h : InColumns pathAt policyAt cells l) : l ≠ [] := by
  rw [h.eq_cells]
  exact List.cons_ne_nil ' ' _

theorem toList_listing (hne : t ≠ []) :
    t.listing.toList = ['\n'].intercalate (t.map t.lineOf) := by
  have hrows : ¬ (t.map row).isEmpty = true := fun hnil =>
    hne (List.map_eq_nil_iff.mp (List.isEmpty_iff.mp hnil))
  have hlisting : t.listing =
      "\n".intercalate ((t.map row).map (line t.verbWidth t.pathWidth)) := if_neg hrows
  rw [hlisting, String.toList_intercalate, List.map_map, List.map_map]
  exact congrArg _ (List.map_congr_left fun e _ => rfl)

/-! ## Lines -/

/-- A legible entry has no break in its line. -/
theorem lineOf_unbroken (hblank : ∀ c, isBreak c = true → Text.isBlank c = true)
    (hspace : isBreak ' ' = false) (he : e ∈ t) (h : e.Legible isBreak) :
    ∀ c ∈ t.lineOf e, isBreak c = false := by
  have hword : ∀ {s : String}, Text.IsWord s → ∀ c ∈ s.toList, isBreak c = false :=
    fun hs c hc => unbroken_of_not_blank hblank (hs.2 c hc)
  have hblanks : ∀ n, ∀ c ∈ Text.blanks n, isBreak c = false := by
    intro n c hc
    rw [List.eq_of_mem_replicate hc, hspace]
  intro c hc
  rw [(inColumns_lineOf he).eq_cells] at hc
  simp only [List.mem_append] at hc
  rcases hc with hc | hc | hc | hc | hc | hc
  · exact hblanks _ c hc
  · exact hword h.verb.upper c hc
  · exact hblanks _ c hc
  · exact hword h.path c hc
  · exact hblanks _ c hc
  · exact Policy.describe_unbroken hblank h.roles c hc

theorem splitOn_listing (hne : t ≠ []) (h : ∀ e ∈ t, e.Legible (· == '\n')) :
    t.listing.toList.splitOn '\n' = t.map t.lineOf := by
  have hfeed : ∀ c : Char, (c == '\n') = true → Text.isBlank c = true := by
    intro c hc
    rw [beq_iff_eq.mp hc]
    decide
  rw [toList_listing hne, List.splitOn_intercalate]
  · intro l hl hmem
    obtain ⟨e, he, rfl⟩ := List.mem_map.mp hl
    have hbreak := lineOf_unbroken hfeed (by decide) he (h e he) '\n' hmem
    cases hbreak
  · exact fun hnil => hne (List.map_eq_nil_iff.mp hnil)

theorem lines_listing (hne : t ≠ []) (h : ∀ e ∈ t, e.Legible Text.isLineBreak) :
    Text.lines t.listing.toList = t.map t.lineOf := by
  rw [toList_listing hne]
  refine Text.lines_intercalate fun l hl => ?_
  obtain ⟨e, he, rfl⟩ := List.mem_map.mp hl
  exact ⟨(inColumns_lineOf he).ne_nil,
    lineOf_unbroken (fun _ => Text.isBlank_of_isLineBreak) (by decide) he (h e he)⟩

/-! ## Reading back -/

/-- The cells of a line: two words and what is left behind them. -/
def readCells (line : List Char) : String × String × String :=
  let verb := Text.nextWord line
  let path := Text.nextWord verb.2
  (String.ofList verb.1, String.ofList path.1, String.ofList (path.2.dropWhile (· == ' ')))

/-- The cells of a listing, line by line. -/
def readListing (text : String) : List (String × String × String) :=
  (text.toList.splitOn '\n').map readCells

theorem InColumns.readCells_eq {pathAt policyAt : Nat} {l : List Char}
    (h : InColumns pathAt policyAt cells l) (hverb : Text.IsWord cells.1)
    (hpath : Text.IsWord cells.2.1) (hpolicy : cells.2.2.toList.head? ≠ some ' ') :
    readCells l = cells := by
  have hverb_apart := h.verb_apart
  have hpath_apart := h.path_apart
  have hfirst : 0 < pathAt - (2 + cells.1.length) := by omega
  have hsecond : 0 < policyAt - (pathAt + cells.2.1.length) := by omega
  rw [h.eq_cells]
  simp only [readCells, Text.nextWord_blanks hverb hfirst, Text.nextWord_blanks hpath hsecond,
    Text.dropWhile_blanks hpolicy, String.ofList_toList]

theorem readListing_listing (hne : t ≠ []) (h : ∀ e ∈ t, e.Legible (· == '\n')) :
    readListing t.listing = t.map row := by
  rw [readListing, splitOn_listing hne h, List.map_map]
  refine List.map_congr_left fun e he => ?_
  have hpolicy : e.policy.describe.toList.head? ≠ some ' ' := by
    obtain ⟨c, hc, hblank⟩ := e.policy.describe_head
    rw [hc]
    rintro ⟨rfl⟩
    cases hblank
  exact (inColumns_lineOf he).readCells_eq (h e he).verb.upper (h e he).path hpolicy

/-- The line that stands for no routes is the line of no table: its third cell is empty. -/
theorem readListing_listing_nil :
    readListing (listing ([] : RouteTable κ)) = [("(no", "routes)", "")] := by
  rw [show listing ([] : RouteTable κ) = "  (no routes)" from rfl]
  decide

theorem listing_ne_listing_nil (hne : t ≠ []) (h : ∀ e ∈ t, e.Legible (· == '\n')) :
    t.listing ≠ listing ([] : RouteTable κ) := by
  intro hsame
  have hcells := readListing_listing hne h
  rw [hsame, readListing_listing_nil] at hcells
  obtain ⟨e, he, hrow⟩ := List.mem_map.mp (hcells ▸ List.mem_singleton.mpr rfl :
    ("(no", "routes)", "") ∈ t.map row)
  obtain ⟨c, hc, -⟩ := e.policy.describe_head
  have hempty : e.policy.describe = "" := congrArg (·.2.2) hrow
  rw [hempty] at hc
  cases hc

/-- A listing has one line for each entry, in the order of the entries, with the cells in
columns that are the same on all lines. If the roles are free of all line breaks and not only
of line feeds, these are the lines whatever is taken to end a line. And the text determines
the cells: a table that is printed alike has the same verbs in capitals, the same paths and
the same descriptions, in the same order. -/
theorem listing_faithful (hne : t ≠ []) (h : ∀ e ∈ t, e.Legible (· == '\n')) :
    List.Forall₂ (fun e l => InColumns t.pathColumn t.policyColumn (row e) l) t
        (t.listing.toList.splitOn '\n') ∧
      ((∀ e ∈ t, e.Legible Text.isLineBreak) →
        Text.lines t.listing.toList = t.listing.toList.splitOn '\n') ∧
      ∀ t' : RouteTable κ, (∀ e ∈ t', e.Legible (· == '\n')) → t'.listing = t.listing →
        t'.map row = t.map row := by
  refine ⟨?_, fun hbreaks => ?_, fun t' h' hsame => ?_⟩
  · rw [splitOn_listing hne h, List.forall₂_map_right_iff, List.forall₂_same]
    exact fun e he => inColumns_lineOf he
  · rw [lines_listing hne hbreaks, splitOn_listing hne h]
  · have hne' : t' ≠ [] := by
      rintro rfl
      exact listing_ne_listing_nil hne h hsame.symm
    rw [← readListing_listing hne' h', hsame, readListing_listing hne h]

/-! A table with a role of two words, and one with the same text. -/

def desk : RouteTable String :=
  [⟨"/api/v1/health", "get", ⟨true, none⟩, "health"⟩,
    ⟨"/api/v1/orders/open", "delete", ⟨false, some ["store keeper", "chief"]⟩, "cancel"⟩]

/-- The same routes with a verb in capitals and a role list that is never looked at. -/
def counter : RouteTable String :=
  [⟨"/api/v1/health", "GET", ⟨true, some ["chief"]⟩, "counter"⟩,
    ⟨"/api/v1/orders/open", "delete", ⟨false, some ["store keeper,chief"]⟩, "counter"⟩]

theorem desk_legible : ∀ e ∈ desk, e.Legible Text.isLineBreak := by
  refine List.forall_mem_cons.mpr ⟨⟨?_, ?_, ?_⟩, List.forall_mem_singleton.mpr ⟨?_, ?_, ?_⟩⟩
  · exact Text.isWord_of_all (by decide) (by decide)
  · exact Text.isWord_of_all (by decide) (by decide)
  · rintro _ ⟨⟩
  · exact Text.isWord_of_all (by decide) (by decide)
  · exact Text.isWord_of_all (by decide) (by decide)
  · rintro _ ⟨⟩
    exact List.forall_mem_cons.mpr
      ⟨Text.none_of_all (by decide), List.forall_mem_singleton.mpr (Text.none_of_all (by decide))⟩

theorem counter_legible : ∀ e ∈ counter, e.Legible Text.isLineBreak := by
  refine List.forall_mem_cons.mpr ⟨⟨?_, ?_, ?_⟩, List.forall_mem_singleton.mpr ⟨?_, ?_, ?_⟩⟩
  · exact Text.isWord_of_all (by decide) (by decide)
  · exact Text.isWord_of_all (by decide) (by decide)
  · rintro _ ⟨⟩
    exact List.forall_mem_singleton.mpr (Text.none_of_all (by decide))
  · exact Text.isWord_of_all (by decide) (by decide)
  · exact Text.isWord_of_all (by decide) (by decide)
  · rintro _ ⟨⟩
    exact List.forall_mem_singleton.mpr (Text.none_of_all (by decide))

theorem desk_read_back :
    desk ≠ [] ∧ (∀ e ∈ desk, e.Legible (· == '\n')) ∧ (∀ e ∈ counter, e.Legible (· == '\n')) ∧
      desk.listing = "  GET     /api/v1/health       public\n" ++
        "  DELETE  /api/v1/orders/open  roles:store keeper,chief" ∧
      List.Forall₂ (fun e l => InColumns 10 31 (row e) l) desk (Text.lines desk.listing.toList) ∧
      counter.listing = desk.listing ∧ counter.map row = desk.map row := by
  have hne : desk ≠ [] := List.cons_ne_nil _ _
  have hdesk : ∀ e ∈ desk, e.Legible (· == '\n') := fun e he => (desk_legible e he).of_lineBreaks
  have hcounter : ∀ e ∈ counter, e.Legible (· == '\n') := fun e he =>
    (counter_legible e he).of_lineBreaks
  have hsame : counter.listing = desk.listing := by decide
  obtain ⟨hcolumns, hlines, hcells⟩ := listing_faithful hne hdesk
  refine ⟨hne, hdesk, hcounter, by decide, ?_, hsame, hcells counter hcounter hsame⟩
  rw [hlines desk_legible]
  exact hcolumns

end RouteTable

end Gatehouse
