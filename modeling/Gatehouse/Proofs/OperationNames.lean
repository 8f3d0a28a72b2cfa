import Gatehouse.Route.Table
import Gatehouse.Text.Search
import Mathlib.Data.List.Basic
import Mathlib.Data.List.TakeWhile

/-!
# Names of operations

The name of an operation is its verb and what is left of its path when everything but
letters and digits of ASCII is taken for space: the runs of letters and digits, joined by
underscores. The name is made in two passes, one that puts an underscore for every stretch
of other characters and one that takes the underscores off at both ends.

`Runs` cuts a text at its runs, and the first pass is followed along that cut. Behind a run
the rest begins with another character or is at its end, so from there on each run has
exactly one underscore in front (`Runs.squeeze_rest`); only before the first run and after
the last one is there something for the second pass. Since no run holds an underscore, the
runs can be read off the name again, so two paths give one name exactly if their runs are
the same, whatever stands between them.
-/

namespace Gatehouse.RouteEntry

/-- The pieces of a text between characters that are no letters or digits of ASCII, the empty
ones left out. -/
def charRuns (cs : List Char) : List (List Char) :=
  (cs.splitOnP fun c => !c.isAlphanum).filter fun piece => !piece.isEmpty

/-- The runs of letters and digits in a text. -/
def runs (s : String) : List String := (charRuns s.toList).map String.ofList

/-- A run holds letters and digits only, and at least one. -/
def IsRun (run : List Char) : Prop := run ≠ [] ∧ ∀ c ∈ run, c.isAlphanum = true

/-- The maximal runs of letters and digits in a text, from left to right: what stands before a
run has none of them, and a run goes on as far as they do. -/
inductive Runs : List Char → List (List Char) → Prop where
  | none {gap : List Char} (hgap : ∀ c ∈ gap, c.isAlphanum = false) : Runs gap []
  | next {gap run rest : List Char} {rs : List (List Char)}
      (hgap : ∀ c ∈ gap, c.isAlphanum = false) (hrun : IsRun run)
      (hend : ∀ c ∈ rest.head?, c.isAlphanum = false) (hrest : Runs rest rs) :
      Runs (gap ++ (run ++ rest)) (run :: rs)

variable {κ : Type} {c : Char} {cs gap run : List Char} {rs : List (List Char)}

/-! ## The cut of a text at its runs -/

theorem Runs.cons_other (hc : c.isAlphanum = false) (h : Runs cs rs) : Runs (c :: cs) rs := by
  cases h with
  | none hgap => exact .none (List.forall_mem_cons.mpr ⟨hc, hgap⟩)
  | next hgap hrun hend hrest =>
      have hgap : ∀ d ∈ c :: _, d.isAlphanum = false := List.forall_mem_cons.mpr ⟨hc, hgap⟩
      exact Runs.next hgap hrun hend hrest

/-- A letter before a text that does not begin with one is a run of its own. -/
theorem Runs.cons_apart (hc : c.isAlphanum = true) (hhead : ∀ d ∈ cs.head?, d.isAlphanum = false)
    (h : Runs cs rs) : Runs (c :: cs) ([c] :: rs) := by
  have hrun : IsRun [c] := ⟨List.cons_ne_nil c [], List.forall_mem_singleton.mpr hc⟩
  exact Runs.next (List.forall_mem_nil _) hrun hhead h

/-- A letter before a text that begins with one belongs to its first run. -/
theorem Runs.cons_joined (hc : c.isAlphanum = true) (hhead : ∃ d ∈ cs.head?, d.isAlphanum = true)
    (h : Runs cs (run :: rs)) : Runs (c :: cs) ((c :: run) :: rs) := by
  obtain ⟨d, hd, hletter⟩ := hhead
  cases h with
  | @next gap _ rest _ hgap hrun hend hrest =>
      cases gap with
      | nil =>
          have hlonger : IsRun (c :: run) :=
            ⟨List.cons_ne_nil c run, List.forall_mem_cons.mpr ⟨hc, hrun.2⟩⟩
          exact Runs.next hgap hlonger hend hrest
      | cons e gap =>
          obtain rfl : e = d := Option.some.inj hd
          rw [hgap e List.mem_cons_self] at hletter
          cases hletter

theorem charRuns_cons_other (hc : c.isAlphanum = false) : charRuns (c :: cs) = charRuns cs := by
  rw [charRuns, List.splitOnP_cons_eq_if_modifyHead, if_pos (by rw [hc]; rfl)]
  rfl

theorem charRuns_cons_apart (hc : c.isAlphanum = true)
    (hhead : ∀ d ∈ cs.head?, d.isAlphanum = false) : charRuns (c :: cs) = [c] :: charRuns cs := by
  have hskip : ¬ (!c.isAlphanum) = true := by simp [hc]
  rw [charRuns, List.splitOnP_cons_eq_if_modifyHead, if_neg hskip]
  cases cs with
  | nil => rfl
  | cons d ds =>
      have hd : (!d.isAlphanum) = true := by rw [hhead d rfl]; rfl
      rw [charRuns, List.splitOnP_cons_eq_if_modifyHead, if_pos hd]
      rfl

theorem charRuns_cons_joined (hc : c.isAlphanum = true) {d : Char} (hd : d.isAlphanum = true)
    (cs : List Char) : ∃ run rs, charRuns (d :: cs) = run :: rs ∧
      charRuns (c :: d :: cs) = (c :: run) :: rs := by
  have hletter : ∀ {e : Char}, e.isAlphanum = true → ¬ (!e.isAlphanum) = true := by simp
  obtain ⟨piece, more, hpieces⟩ : ∃ piece more,
      (cs.splitOnP fun c => !c.isAlphanum) = piece :: more :=
    List.exists_cons_of_ne_nil (List.splitOnP_ne_nil _ _)
  refine ⟨d :: piece, more.filter fun piece => !piece.isEmpty, ?_, ?_⟩
  · rw [charRuns, List.splitOnP_cons_eq_if_modifyHead, if_neg (hletter hd), hpieces]
    rfl
  · rw [charRuns, List.splitOnP_cons_eq_if_modifyHead, if_neg (hletter hc),
      List.splitOnP_cons_eq_if_modifyHead, if_neg (hletter hd), hpieces]
    rfl

/-- The runs that `charRuns` finds are the maximal ones. -/
theorem runs_charRuns (cs : List Char) : Runs cs (charRuns cs) := by
  induction cs with
  | nil => exact .none (List.forall_mem_nil _)
  | cons c cs ih =>
      cases hc : c.isAlphanum with
      | false =>
          rw [charRuns_cons_other hc]
          exact ih.cons_other hc
      | true =>
          by_cases hhead : ∀ d ∈ cs.head?, d.isAlphanum = false
          · rw [charRuns_cons_apart hc hhead]
            exact ih.cons_apart hc hhead
          · obtain ⟨d, ds, rfl, hd⟩ : ∃ d ds, cs = d :: ds ∧ d.isAlphanum = true := by
              cases cs with
              | nil => exact absurd (fun d hd => nomatch hd) hhead
              | cons d ds => exact ⟨d, ds, rfl, by simpa using hhead⟩
            obtain ⟨run, rs, hrest, hall⟩ := charRuns_cons_joined hc hd ds
            rw [hrest] at ih
            rw [hall]
            exact ih.cons_joined hc ⟨d, rfl, hd⟩

/-! ## The first pass -/

theorem isWordChar_eq (c : Char) : isWordChar c = c.isAlphanum := by
  have hword : isWordChar c =
      ((decide ('0'.val ≤ c.val) && decide (c.val ≤ '9'.val)) ||
        (decide ('a'.val ≤ c.val) && decide (c.val ≤ 'z'.val)) ||
        (decide ('A'.val ≤ c.val) && decide (c.val ≤ 'Z'.val))) := rfl
  have halphanum : c.isAlphanum =
      (decide ('A'.val ≤ c.val ∧ c.val ≤ 'Z'.val) ||
        (decide ('a'.val ≤ c.val) && decide (c.val ≤ 'z'.val)) ||
        (decide ('0'.val ≤ c.val) && decide (c.val ≤ '9'.val))) := rfl
  rw [hword, halphanum, Bool.decide_and]
  ac_rfl

theorem squeeze_cons_other {inRun : Bool} (hc : c.isAlphanum = false) :
    squeeze inRun (c :: cs) = (if inRun then [] else ['_']) ++ squeeze true cs := by
  cases inRun <;> simp [squeeze, isWordChar_eq, hc]

theorem squeeze_gap (hgap : ∀ c ∈ gap, c.isAlphanum = false) :
    squeeze true (gap ++ cs) = squeeze true cs := by
  induction gap with
  | nil => rfl
  | cons c gap ih =>
      obtain ⟨hc, hgap⟩ := List.forall_mem_cons.mp hgap
      rw [List.cons_append, squeeze_cons_other hc, ih hgap]
      rfl

theorem squeeze_run {inRun : Bool} (hrun : IsRun run) :
    squeeze inRun (run ++ cs) = run ++ squeeze false cs := by
  obtain ⟨hne, hrun⟩ := hrun
  induction run generalizing inRun with
  | nil => exact absurd rfl hne
  | cons c run ih =>
      obtain ⟨hc, hrun⟩ := List.forall_mem_cons.mp hrun
      rw [List.cons_append, squeeze, if_pos (by rw [isWordChar_eq, hc])]
      cases run with
      | nil => rfl
      | cons d run => rw [ih (List.cons_ne_nil d run) hrun]; rfl

/-- A gap that is not empty leaves one underscore. -/
theorem squeeze_gap_run (hgap : ∀ c ∈ gap, c.isAlphanum = false) (hrun : IsRun run) :
    squeeze false (gap ++ (run ++ cs)) =
      (if gap = [] then [] else ['_']) ++ (run ++ squeeze false cs) := by
  cases gap with
  | nil => exact squeeze_run hrun
  | cons c gap =>
      obtain ⟨hc, hgap⟩ := List.forall_mem_cons.mp hgap
      rw [List.cons_append, squeeze_cons_other hc, squeeze_gap hgap, squeeze_run hrun]
      rfl

/-- Behind a run each further run has one underscore in front. -/
theorem Runs.squeeze_rest (h : Runs cs rs) (hhead : ∀ c ∈ cs.head?, c.isAlphanum = false) :
    ∃ trail, (∀ c ∈ trail, c = '_') ∧
      squeeze false cs = rs.flatMap (fun run => '_' :: run) ++ trail := by
  induction h with
  | @none gap hgap =>
      cases gap with
      | nil => exact ⟨[], List.forall_mem_nil _, rfl⟩
      | cons c gap =>
          obtain ⟨hc, hgap⟩ := List.forall_mem_cons.mp hgap
          refine ⟨['_'], List.forall_mem_singleton.mpr rfl, ?_⟩
          have hrest : squeeze true (gap ++ []) = squeeze true [] := squeeze_gap hgap
          rw [List.append_nil] at hrest
          rw [squeeze_cons_other hc, hrest]
          rfl
  | @next gap run rest rs hgap hrun hend hrest ih =>
      obtain ⟨trail, htrail, hsqueeze⟩ := ih hend
      refine ⟨trail, htrail, ?_⟩
      -- The text begins with another character, so there is a gap before the run.
      have hne : gap ≠ [] := by
        rintro rfl
        obtain ⟨c, run, rfl⟩ := List.exists_cons_of_ne_nil hrun.1
        have hother := hhead c rfl
        rw [hrun.2 c List.mem_cons_self] at hother
        cases hother
      rw [squeeze_gap_run hgap hrun, if_neg hne, hsqueeze, List.flatMap_cons, List.append_assoc]
      rfl

/-! ## The second pass -/

theorem stripUnderscores_between {lead middle trail : List Char} (hlead : ∀ c ∈ lead, c = '_')
    (htrail : ∀ c ∈ trail, c = '_') (hhead : middle.head? ≠ some '_')
    (hlast : middle.getLast? ≠ some '_') :
    stripUnderscores (lead ++ (middle ++ trail)) = middle := by
  cases hmiddle : middle with
  | nil =>
      have hall : (lead ++ trail).dropWhile (· == '_') = [] := by
        refine List.dropWhile_eq_nil_iff.mpr fun c hc => beq_iff_eq.mpr ?_
        exact (List.mem_append.mp hc).elim (hlead c) (htrail c)
      rw [stripUnderscores, List.nil_append, hall]
      rfl
  | cons c rest =>
      rw [← hmiddle]
      have hfront : (middle ++ trail).head? ≠ some '_' := by
        rw [hmiddle] at hhead ⊢
        exact hhead
      have hback : middle.reverse.head? ≠ some '_' := by rwa [List.head?_reverse]
      have htrail : ∀ c ∈ trail.reverse, c = '_' := fun c hc => htrail c (List.mem_reverse.mp hc)
      rw [stripUnderscores, Text.dropWhile_marks hlead hfront, List.reverse_append,
        Text.dropWhile_marks htrail hback, List.reverse_reverse]

/-! ## Runs joined by underscores -/

theorem IsRun.underscore_not_mem (h : IsRun run) : '_' ∉ run := fun hmem =>
  absurd (h.2 '_' hmem) (by decide)

theorem Runs.isRun (h : Runs cs rs) : ∀ run ∈ rs, IsRun run := by
  induction h with
  | none => exact List.forall_mem_nil _
  | next hgap hrun hend hrest ih => exact List.forall_mem_cons.mpr ⟨hrun, ih⟩

theorem intercalate_cons_eq_flatMap (run : List Char) (rs : List (List Char)) :
    ['_'].intercalate (run :: rs) = run ++ rs.flatMap (fun run => '_' :: run) := by
  induction rs generalizing run with
  | nil => rw [List.intercalate_singleton, List.flatMap_nil, List.append_nil]
  | cons next rs ih =>
      rw [List.intercalate_cons_cons, ih, List.flatMap_cons, List.append_assoc]
      rfl

theorem intercalate_ne_nil (hrun : IsRun run) : ['_'].intercalate (run :: rs) ≠ [] := by
  rw [intercalate_cons_eq_flatMap]
  exact List.append_ne_nil_of_left_ne_nil hrun.1 _

theorem head?_intercalate_ne (h : ∀ run ∈ rs, IsRun run) :
    (['_'].intercalate rs).head? ≠ some '_' := by
  cases rs with
  | nil => decide
  | cons run rs =>
      have hrun := h run List.mem_cons_self
      rw [intercalate_cons_eq_flatMap, List.head?_append_of_ne_nil _ hrun.1]
      exact fun hhead => hrun.underscore_not_mem (List.mem_of_head? hhead)

theorem getLast?_intercalate_ne (h : ∀ run ∈ rs, IsRun run) :
    (['_'].intercalate rs).getLast? ≠ some '_' := by
  induction rs with
  | nil => decide
  | cons run rs ih =>
      obtain ⟨hrun, hrest⟩ := List.forall_mem_cons.mp h
      cases rs with
      | nil =>
          rw [List.intercalate_singleton]
          exact fun hlast => hrun.underscore_not_mem (List.mem_of_getLast? hlast)
      | cons next rs =>
          rw [List.intercalate_cons_cons,
            List.getLast?_append_of_ne_nil _ (intercalate_ne_nil (hrest next List.mem_cons_self))]
          exact ih hrest

/-- No run holds an underscore, so the runs can be read off the joined text. -/
theorem filter_splitOn_intercalate (h : ∀ run ∈ rs, IsRun run) :
    ((['_'].intercalate rs).splitOn '_').filter (fun piece => !piece.isEmpty) = rs := by
  cases rs with
  | nil => rfl
  | cons run rest =>
      rw [List.splitOn_intercalate '_' (fun r hr => (h r hr).underscore_not_mem)
        (List.cons_ne_nil run rest)]
      refine List.filter_eq_self.mpr fun r hr => ?_
      rw [List.isEmpty_eq_false_iff.mpr (h r hr).1]
      rfl

/-! ## Names -/

theorem Runs.stripUnderscores_squeeze (h : Runs cs rs) :
    stripUnderscores (squeeze false cs) = ['_'].intercalate rs := by
  have hhead := head?_intercalate_ne h.isRun
  have hlast := getLast?_intercalate_ne h.isRun
  cases h with
  | @none gap hgap =>
      obtain ⟨trail, htrail, hsqueeze⟩ := (Runs.none hgap).squeeze_rest fun c hc =>
        hgap c (List.mem_of_head? hc)
      rw [hsqueeze]
      exact stripUnderscores_between (List.forall_mem_nil _) htrail hhead hlast
  | @next gap run rest rs hgap hrun hend hrest =>
      obtain ⟨trail, htrail, hsqueeze⟩ := hrest.squeeze_rest hend
      -- Of the gaps before runs only the first one leaves something at an end.
      have hlead : ∀ c ∈ (if gap = [] then [] else ['_']), c = '_' := by
        split
        · exact List.forall_mem_nil _
        · exact List.forall_mem_singleton.mpr rfl
      rw [squeeze_gap_run hgap hrun, hsqueeze, ← List.append_assoc run,
        ← intercalate_cons_eq_flatMap]
      exact stripUnderscores_between hlead htrail hhead hlast

theorem toList_runs (s : String) : (runs s).map String.toList = charRuns s.toList := by
  rw [runs, List.map_map]
  exact (List.map_congr_left fun cs _ => String.toList_ofList).trans (List.map_id _)

theorem slug_eq (s : String) : slug s = "_".intercalate (runs s) := by
  rw [slug, (runs_charRuns s.toList).stripUnderscores_squeeze, ← toList_runs,
    ← String.toList_inj, String.toList_ofList, String.toList_intercalate]
  rfl

theorem slug_eq_iff {s s' : String} : slug s = slug s' ↔ runs s = runs s' := by
  refine ⟨fun h => ?_, fun h => by rw [slug_eq, slug_eq, h]⟩
  have hjoined : ['_'].intercalate (charRuns s.toList) = ['_'].intercalate (charRuns s'.toList) := by
    rw [slug, slug, String.ofList_inj, (runs_charRuns _).stripUnderscores_squeeze,
      (runs_charRuns _).stripUnderscores_squeeze] at h
    exact h
  have hruns : charRuns s.toList = charRuns s'.toList := by
    rw [← filter_splitOn_intercalate (runs_charRuns s.toList).isRun, hjoined,
      filter_splitOn_intercalate (runs_charRuns s'.toList).isRun]
  rw [runs, runs, hruns]

/-- A path without a run leaves the bare verb. -/
example : slug "/é/~/" = "" := by decide

/-- The name of an operation is its verb, and behind an underscore the maximal runs of letters
and digits of its path, in order and joined by single underscores. So two operations with one
verb have the same name exactly if the runs of their paths are the same. -/
theorem operationId_in_runs (e : RouteEntry κ) :
    Runs e.path.toList ((runs e.path).map String.toList) ∧
      e.operationId = e.verb ++ "_" ++ "_".intercalate (runs e.path) ∧
      ∀ e' : RouteEntry κ, e'.verb = e.verb →
        (e'.operationId = e.operationId ↔ runs e'.path = runs e.path) := by
  refine ⟨?_, ?_, fun e' hverb => ?_⟩
  · rw [toList_runs]
    exact runs_charRuns e.path.toList
  · rw [operationId, slug_eq]
  · rw [operationId, operationId, hverb, String.append_right_inj, slug_eq_iff]

/-! Two paths that differ in what stands between their runs. -/

/-- A path with a hyphen. -/
def hyphened : RouteEntry String := ⟨"/v1/file-sets/name", "get", ⟨true, none⟩, "hyphened"⟩

/-- A path with a dot, a letter beyond ASCII and a slash at its end. -/
def dotted : RouteEntry String := ⟨"/v1//file.sets/é/name/", "get", ⟨true, none⟩, "dotted"⟩

theorem same_runs_same_name : dotted.verb = hyphened.verb ∧
    hyphened.operationId = "get_v1_file_sets_name" ∧ dotted.operationId = hyphened.operationId := by
  obtain ⟨-, hname, hsame⟩ := operationId_in_runs hyphened
  have hverb : dotted.verb = hyphened.verb := rfl
  exact ⟨hverb, hname.trans (by decide), (hsame dotted hverb).mpr (by decide)⟩

end Gatehouse.RouteEntry
