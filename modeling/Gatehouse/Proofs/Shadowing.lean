import Gatehouse.Proofs.KeptHandlers
import Gatehouse.Text.Search
import Mathlib.Data.Finset.Card

/-!
# Shadowed entries

An entry that has the path and the verb of an earlier one stays in the table and is shadowed:
a lookup ends at the earlier one. The compiler looks at each entry before it adds it and says
so if the pair is there. What it has seen by then is the table so far, over all roots and
depths, since nothing is ever taken out. So what is said can be read off the finished table
(`repeatsAt`), and without the entries about which something was said (`reached`) no pair
comes twice.

Tables grow at their end, and so do all inductions here: `repeatsAt` looks back, and one
entry more does not change what it says of the others.
-/

namespace Gatehouse

variable {κ : Type}

/-- What a lookup goes by. -/
def RouteEntry.key (e : RouteEntry κ) : String × String := (e.path, e.verb)

/-- Whether a record is about an entry that repeats an earlier one. -/
def LogEntry.tellsOfRepetition (l : LogEntry) : Bool :=
  Text.startsWith "Duplicate route " l.message

namespace RouteTable

variable {t : RouteTable κ} {e : RouteEntry κ} {path verb : String} {k : Nat}

/-- Whether the entry at an index has the path and the verb of an earlier one. -/
def repeatsAt (t : RouteTable κ) (k : Nat) : Bool :=
  match t[k]? with
  | some e => holds (t.take k) e.path e.verb
  | none => false

/-- The entries at the indices that `keep` names. -/
def pick (keep : Nat → Bool) (t : RouteTable κ) : RouteTable κ :=
  (t.zipIdx.filter fun p => keep p.2).map (·.1)

/-- The entries that repeat an earlier one. -/
def repeated (t : RouteTable κ) : RouteTable κ := t.pick t.repeatsAt

/-- The entries that are left without the repeated ones. -/
def reached (t : RouteTable κ) : RouteTable κ := t.pick fun k => !t.repeatsAt k

/-- The entry at an index is the first one for a path and a verb. -/
def FirstAt (t : RouteTable κ) (path verb : String) (k : Nat) (e : RouteEntry κ) : Prop :=
  t[k]? = some e ∧ e.key = (path, verb) ∧ (path, verb) ∉ (t.take k).map RouteEntry.key

theorem holds_iff : holds t path verb = true ↔ (path, verb) ∈ t.map RouteEntry.key := by
  rw [holds, List.any_eq_true, List.mem_map]
  simp only [RouteEntry.key, Prod.mk.injEq, Bool.and_eq_true, decide_eq_true_eq]

theorem key_mem_of_holds (h : holds t e.path e.verb = true) : e.key ∈ t.map RouteEntry.key :=
  holds_iff.mp h

theorem key_not_mem_of_holds (h : holds t e.path e.verb = false) :
    e.key ∉ t.map RouteEntry.key := by
  intro hmem
  rw [holds_iff.mpr hmem] at h
  cases h

/-! ## One entry more -/

theorem repeatsAt_concat_self (t : RouteTable κ) (e : RouteEntry κ) :
    repeatsAt (t ++ [e]) t.length = holds t e.path e.verb := by
  rw [repeatsAt, List.getElem?_concat_length, List.take_left]

theorem repeatsAt_concat_of_lt (h : k < t.length) (e : RouteEntry κ) :
    repeatsAt (t ++ [e]) k = t.repeatsAt k := by
  rw [repeatsAt, repeatsAt, List.getElem?_append_left h,
    List.take_append_of_le_length (Nat.le_of_lt h)]

theorem pick_congr {keep keep' : Nat → Bool} (h : ∀ k < t.length, keep k = keep' k) :
    t.pick keep = t.pick keep' := by
  rw [pick, pick]
  congr 1
  refine List.filter_congr ?_
  rintro ⟨e, k⟩ hp
  exact h k (List.snd_lt_of_mem_zipIdx hp)

theorem pick_concat (keep : Nat → Bool) (t : RouteTable κ) (e : RouteEntry κ) :
    pick keep (t ++ [e]) = t.pick keep ++ if keep t.length then [e] else [] := by
  rw [pick, List.zipIdx_append, List.filter_append, List.map_append, pick]
  cases hkeep : keep t.length <;> simp [hkeep]

theorem repeated_concat (t : RouteTable κ) (e : RouteEntry κ) :
    repeated (t ++ [e]) = t.repeated ++ if holds t e.path e.verb then [e] else [] := by
  rw [repeated, pick_concat, repeatsAt_concat_self, repeated]
  rw [pick_congr fun k hk => repeatsAt_concat_of_lt hk e]

theorem reached_concat (t : RouteTable κ) (e : RouteEntry κ) :
    reached (t ++ [e]) = t.reached ++ if holds t e.path e.verb then [] else [e] := by
  rw [reached, pick_concat, repeatsAt_concat_self, reached]
  rw [pick_congr fun k hk => congrArg (!·) (repeatsAt_concat_of_lt hk e)]
  cases holds t e.path e.verb <;> rfl

/-! ## Without the repeated entries -/

theorem mem_keys_reached (t : RouteTable κ) (key : String × String) :
    key ∈ t.reached.map RouteEntry.key ↔ key ∈ t.map RouteEntry.key := by
  induction t using List.reverseRecOn with
  | nil => rfl
  | append_singleton t e ih =>
      rw [reached_concat, List.map_append, List.map_append, List.mem_append, List.mem_append, ih]
      cases hholds : holds t e.path e.verb with
      | false => rfl
      | true =>
          have hmem := key_mem_of_holds hholds
          constructor
          · rintro (h | h)
            · exact Or.inl h
            · cases h
          · rintro (h | h)
            · exact Or.inl h
            · rw [List.mem_singleton.mp h]
              exact Or.inl hmem

theorem nodup_keys_reached (t : RouteTable κ) : (t.reached.map RouteEntry.key).Nodup := by
  induction t using List.reverseRecOn with
  | nil => exact List.nodup_nil
  | append_singleton t e ih =>
      rw [reached_concat]
      cases hholds : holds t e.path e.verb with
      | true => rwa [if_pos rfl, List.append_nil]
      | false =>
          rw [if_neg Bool.false_ne_true, List.map_append]
          refine ih.append (List.nodup_singleton _) ?_
          rw [List.map_singleton, List.disjoint_singleton, mem_keys_reached]
          exact key_not_mem_of_holds hholds

theorem length_repeated_add_reached (t : RouteTable κ) :
    t.repeated.length + t.reached.length = t.length := by
  induction t using List.reverseRecOn with
  | nil => rfl
  | append_singleton t e ih =>
      rw [repeated_concat, reached_concat]
      cases holds t e.path e.verb <;> simp <;> omega

/-- As many entries are repeated as there are more entries than pairs. -/
theorem length_repeated_add_card (t : RouteTable κ) :
    t.repeated.length + (t.map RouteEntry.key).toFinset.card = t.length := by
  have hsame : (t.map RouteEntry.key).toFinset = (t.reached.map RouteEntry.key).toFinset := by
    ext key
    rw [List.mem_toFinset, List.mem_toFinset, mem_keys_reached]
  rw [hsame, List.toFinset_card_of_nodup t.nodup_keys_reached, List.length_map]
  exact t.length_repeated_add_reached

theorem mem_paths_of_holds (h : holds t e.path e.verb = true) : e.path ∈ t.paths := by
  obtain ⟨e', he', hkey⟩ := List.mem_map.mp (key_mem_of_holds h)
  exact List.mem_eraseDups.mpr (List.mem_map.mpr ⟨e', he', congrArg Prod.fst hkey⟩)

theorem paths_concat (t : RouteTable κ) (e : RouteEntry κ) :
    paths (t ++ [e]) = t.paths ++ if e.path ∈ t.paths then [] else [e.path] := by
  have hiff : e.path ∈ t.paths ↔ e.path ∈ t.map RouteEntry.path := List.mem_eraseDups
  rw [paths, List.map_append, List.eraseDups_append, List.map_singleton, List.removeAll,
    List.filter_singleton, List.elem_eq_contains, ← paths]
  by_cases hmem : e.path ∈ t.map RouteEntry.path
  · rw [if_pos (hiff.mpr hmem), List.contains_iff_mem.mpr hmem]
    rfl
  · rw [if_neg (mt hiff.mp hmem), Bool.eq_false_iff.mpr (mt List.contains_iff_mem.mp hmem)]
    rfl

theorem paths_reached (t : RouteTable κ) : t.reached.paths = t.paths := by
  induction t using List.reverseRecOn with
  | nil => rfl
  | append_singleton t e ih =>
      rw [reached_concat, paths_concat]
      cases hholds : holds t e.path e.verb with
      | false => rw [if_neg Bool.false_ne_true, paths_concat, ih]
      | true =>
          rw [if_pos rfl, if_pos (mem_paths_of_holds hholds), List.append_nil, List.append_nil, ih]

/-! ## Lookups -/

theorem lookup_eq_find? (t : RouteTable κ) (path verb : String) :
    t.lookup path verb = t.find? fun e => e.key = (path, Text.lower verb) := by
  rw [lookup]
  congr 1
  funext e
  rw [← Bool.decide_and]
  simp only [RouteEntry.key, Prod.mk.injEq]

theorem lookup_eq_none_iff :
    t.lookup path verb = none ↔ (path, Text.lower verb) ∉ t.map RouteEntry.key := by
  rw [lookup_eq_find?, List.find?_eq_none, List.mem_map]
  simp only [decide_eq_true_eq, not_exists, not_and]

theorem lookup_concat (t : RouteTable κ) (e : RouteEntry κ) (path verb : String) :
    lookup (t ++ [e]) path verb = (t.lookup path verb).or (lookup [e] path verb) :=
  List.find?_append

/-- A lookup finds the first entry for the path and the verb. -/
theorem lookup_eq_some_iff :
    t.lookup path verb = some e ↔ ∃ k, t.FirstAt path (Text.lower verb) k e := by
  rw [lookup_eq_find?, List.find?_eq_some_iff_getElem]
  simp only [decide_eq_true_eq, FirstAt, List.mem_map, not_exists, not_and]
  constructor
  · rintro ⟨hkey, k, hk, he, hbefore⟩
    refine ⟨k, by rw [List.getElem?_eq_getElem hk, he], hkey, ?_⟩
    intro e' he'
    obtain ⟨j, hj, rfl⟩ := List.getElem_of_mem he'
    rw [List.length_take] at hj
    rw [List.getElem_take]
    simpa using hbefore j (by omega)
  · rintro ⟨k, hget, hkey, hbefore⟩
    obtain ⟨hk, he⟩ := List.getElem?_eq_some_iff.mp hget
    refine ⟨hkey, k, hk, he, ?_⟩
    intro j hj
    have hmem : t[j] ∈ t.take k := by
      rw [List.mem_take_iff_getElem]
      exact ⟨j, by omega, rfl⟩
    simpa using hbefore _ hmem

theorem lookup_reached (t : RouteTable κ) (path verb : String) :
    t.reached.lookup path verb = t.lookup path verb := by
  induction t using List.reverseRecOn with
  | nil => rfl
  | append_singleton t e ih =>
      rw [reached_concat, lookup_concat]
      cases hholds : holds t e.path e.verb with
      | false => rw [if_neg Bool.false_ne_true, lookup_concat, ih]
      | true =>
          rw [if_pos rfl, List.append_nil, ih]
          cases hlookup : lookup t path verb with
          | some found => rw [Option.some_or]
          | none =>
              -- the entry repeats one of the table, which the lookup has not found either
              have hother : lookup [e] path verb = none := by
                rw [lookup_eq_none_iff, List.map_singleton, List.mem_singleton]
                rintro hkey
                rw [lookup_eq_none_iff, hkey] at hlookup
                exact hlookup (key_mem_of_holds hholds)
              rw [hother, Option.none_or]

theorem FirstAt.repeatsAt_eq_false (h : t.FirstAt path verb k e) : t.repeatsAt k = false := by
  obtain ⟨hget, hkey, hbefore⟩ := h
  rw [repeatsAt, hget, Bool.eq_false_iff]
  intro hholds
  exact hbefore (hkey ▸ key_mem_of_holds hholds)

/-! ## What is said while the table grows -/

variable {opts : CompileOptions} {views : Value κ} {table : RouteTable κ} {p p' : Progress κ}

/-- In the course of compiling `views` the entry `e` is added to what there is, `q`. -/
def Adds (opts : CompileOptions) (views : Value κ) (q : Progress κ) (e : RouteEntry κ) : Prop :=
  ∃ roots trees before behind, views.items? = some roots ∧
    List.Forall₂ (fun v t => RouteTree.read v = .ok t) roots trees ∧
    steps opts trees = before ++ .entry e :: behind ∧
    runSteps opts.strict .empty before = .ok q

/-- While the entry is compiled that gets an index, something is said about a repetition. -/
def WarnsAt (opts : CompileOptions) (views : Value κ) (k : Nat) : Prop :=
  ∃ q e q', Adds opts views q e ∧ q.table.length = k ∧
    step opts.strict q (.entry e) = .ok q' ∧
    ∃ l ∈ q'.logs.drop q.logs.length, l.tellsOfRepetition = true

theorem tellsOfRepetition_shadowWarning (e : RouteEntry κ) :
    (shadowWarning e).tellsOfRepetition = true := by
  simp [LogEntry.tellsOfRepetition, shadowWarning, compilerLog, Text.startsWith]

theorem tellsOfRepetition_gap (g : Gap) : g.warning.tellsOfRepetition = false := by
  cases g <;>
    simp [LogEntry.tellsOfRepetition, Gap.warning, compilerLog, Text.startsWith, List.isPrefixOf]

theorem tellsOfRepetition_summary (t : RouteTable κ) :
    (summary t).tellsOfRepetition = false := by
  simp [LogEntry.tellsOfRepetition, summary, compilerLog, Text.startsWith, List.isPrefixOf]

/-- The records about repetitions are those about the repeated entries. -/
def TellsRepeated (p : Progress κ) : Prop :=
  p.logs.filter LogEntry.tellsOfRepetition = p.table.repeated.map shadowWarning

theorem step_entry_eq (strict : Bool) (p : Progress κ) (e : RouteEntry κ) :
    step strict p (.entry e) = .ok ⟨p.table ++ [e],
      p.logs ++ if holds p.table e.path e.verb then [shadowWarning e] else []⟩ := rfl

theorem step_tells {strict : Bool} {s : LayoutStep κ} (h : step strict p s = .ok p')
    (hp : TellsRepeated p) : TellsRepeated p' := by
  cases hgap : s.gap? with
  | some g =>
      obtain ⟨hstrict, hlax⟩ := step_of_gap?_eq_some hgap p
      cases strict with
      | true => rw [hstrict] at h; cases h
      | false =>
          rw [hlax] at h
          injection h with h
          subst h
          rw [TellsRepeated, List.filter_append, hp, List.filter_singleton,
            tellsOfRepetition_gap, cond_false, List.append_nil]
  | none =>
      cases s with
      | entry e =>
          rw [step_entry_eq] at h
          injection h with h
          subst h
          rw [TellsRepeated, List.filter_append, hp, repeated_concat, List.map_append]
          cases holds p.table e.path e.verb with
          | false => rfl
          | true => simp [tellsOfRepetition_shadowWarning]
      | emptyNode path => cases hgap
      | rootWithoutUrl => cases hgap

theorem runSteps_tells {strict : Bool} {steps : List (LayoutStep κ)}
    (h : runSteps strict p steps = .ok p') (hp : TellsRepeated p) : TellsRepeated p' := by
  induction steps generalizing p with
  | nil =>
      injection h with h
      rwa [← h]
  | cons s rest ih =>
      rw [runSteps] at h
      cases hstep : step strict p s with
      | error e => rw [hstep] at h; cases h
      | ok p₁ =>
          rw [hstep] at h
          exact ih h (step_tells hstep hp)

/-- What compiles is one run over the steps of trees. -/
theorem exists_run_of_compile (h : (compile opts views).result = .ok table) :
    ∃ roots trees p, views.items? = some roots ∧
      List.Forall₂ (fun v t => RouteTree.read v = .ok t) roots trees ∧
      runSteps opts.strict .empty (steps opts trees) = .ok p ∧ p.table = table ∧
      (compile opts views).logs = p.logs ++ [summary table] := by
  rw [compile] at h ⊢
  cases hitems : views.items? with
  | none => rw [hitems] at h; cases h
  | some roots =>
      rw [hitems] at h
      simp only [compileRoots] at h ⊢
      cases hrun : runRoots opts .empty roots with
      | error e => rw [hrun] at h; cases h
      | ok p =>
          rw [hrun] at h
          injection h with h
          subst h
          obtain ⟨trees, hread, -⟩ := runRoots_table hrun
          rw [runRoots_of_read hread] at hrun
          exact ⟨roots, trees, p, rfl, hread, hrun, rfl, rfl⟩

theorem read_unique {roots : List (Value κ)} {trees trees' : List (RouteTree κ)}
    (h : List.Forall₂ (fun v t => RouteTree.read v = .ok t) roots trees)
    (h' : List.Forall₂ (fun v t => RouteTree.read v = .ok t) roots trees') : trees = trees' := by
  induction h generalizing trees' with
  | nil => cases h'; rfl
  | cons hread _ ih =>
      cases h' with
      | cons hread' hrest =>
          rw [hread] at hread'
          injection hread' with hread'
          rw [hread', ih hrest]

/-- What an entry is added to is the part of the table before it. -/
theorem Adds.table_eq {q : Progress κ} (h : Adds opts views q e)
    (hcompile : (compile opts views).result = .ok table) :
    ∃ behind, table = q.table ++ e :: behind := by
  obtain ⟨roots, trees, p, hitems, hread, hrun, rfl, -⟩ := exists_run_of_compile hcompile
  obtain ⟨roots', trees', before, behind, hitems', hread', hsteps, hbefore⟩ := h
  obtain rfl := Option.some.inj (hitems.symm.trans hitems')
  obtain rfl := read_unique hread hread'
  rw [hsteps, runSteps_append, hbefore] at hrun
  rw [runSteps_table hrun]
  exact ⟨behind.filterMap LayoutStep.added?, rfl⟩

/-- Every entry of the table was added at some moment. -/
theorem exists_adds (hcompile : (compile opts views).result = .ok table)
    {before behind : RouteTable κ} (htable : table = before ++ e :: behind) :
    ∃ q, q.table = before ∧ Adds opts views q e := by
  obtain ⟨roots, trees, p, hitems, hread, hrun, rfl, -⟩ := exists_run_of_compile hcompile
  have hentries := runSteps_table hrun
  rw [htable, show Progress.empty.table = ([] : RouteTable κ) from rfl, List.nil_append] at hentries
  obtain ⟨steps₁, steps₂, hsteps, hbefore, hrest⟩ := List.filterMap_eq_append_iff.mp hentries.symm
  obtain ⟨skipped, s, steps₃, rfl, hskipped, hs, -⟩ := List.filterMap_eq_cons_iff.mp hrest
  have hs : s = .entry e := by
    cases s with
    | entry e' => injection hs with hs; rw [hs]
    | _ => cases hs
  subst hs
  rw [← List.append_assoc] at hsteps
  rw [hsteps, runSteps_append] at hrun
  cases hq : runSteps opts.strict .empty (steps₁ ++ skipped) with
  | error e => rw [hq] at hrun; cases hrun
  | ok q =>
      refine ⟨q, ?_, roots, trees, steps₁ ++ skipped, steps₃, hitems, hread, hsteps, hq⟩
      rw [runSteps_table hq, List.filterMap_append, hbefore,
        List.filterMap_eq_nil_iff.mpr hskipped, List.append_nil]
      rfl

theorem repeatsAt_append_cons (before behind : RouteTable κ) (e : RouteEntry κ) :
    repeatsAt (before ++ e :: behind) before.length = holds before e.path e.verb := by
  rw [repeatsAt, List.getElem?_append_right (Nat.le_refl _), Nat.sub_self, List.take_left]
  rfl

/-- Something is said about an entry exactly if it repeats an earlier one. -/
theorem warnsAt_iff (hcompile : (compile opts views).result = .ok table) (k : Nat) :
    WarnsAt opts views k ↔ table.repeatsAt k = true := by
  constructor
  · rintro ⟨q, e, q', hadds, rfl, hstep, l, hl, htells⟩
    obtain ⟨behind, rfl⟩ := hadds.table_eq hcompile
    rw [step_entry_eq] at hstep
    injection hstep with hstep
    subst hstep
    rw [List.drop_left] at hl
    rw [repeatsAt_append_cons]
    cases hholds : holds q.table e.path e.verb with
    | true => rfl
    | false => rw [hholds] at hl; cases hl
  · intro hrepeats
    cases hget : table[k]? with
    | none => rw [repeatsAt, hget] at hrepeats; cases hrepeats
    | some e =>
        obtain ⟨hk, he⟩ := List.getElem?_eq_some_iff.mp hget
        have htable : table = table.take k ++ e :: table.drop (k + 1) := by
          rw [← he, ← List.drop_eq_getElem_cons hk, List.take_append_drop]
        obtain ⟨q, hq, hadds⟩ := exists_adds hcompile htable
        rw [repeatsAt, hget, ← hq] at hrepeats
        refine ⟨q, e, _, hadds, ?_, step_entry_eq _ _ _, shadowWarning e, ?_,
          tellsOfRepetition_shadowWarning e⟩
        · rw [hq, List.length_take]
          omega
        · rw [List.drop_left, if_pos hrepeats]
          exact List.mem_cons_self

theorem filter_logs_of_compile (hcompile : (compile opts views).result = .ok table) :
    (compile opts views).logs.filter LogEntry.tellsOfRepetition =
      table.repeated.map shadowWarning := by
  obtain ⟨roots, trees, p, -, -, hrun, rfl, hlogs⟩ := exists_run_of_compile hcompile
  have hp : TellsRepeated p := runSteps_tells hrun rfl
  rw [hlogs, List.filter_append, hp, List.filter_singleton, tellsOfRepetition_summary, cond_false,
    List.append_nil]

/-- Something is said about the entries that repeat an earlier one, each in its turn, and
about no other. A lookup finds the first entry for a path and a verb, about which nothing was
said, and without all the others every lookup ends as before. -/
theorem shadowed_exactly_if_warned (hcompile : (compile opts views).result = .ok table) :
    (∀ k, WarnsAt opts views k ↔ table.repeatsAt k = true) ∧
      (compile opts views).logs.filter LogEntry.tellsOfRepetition =
        table.repeated.map shadowWarning ∧
      ((compile opts views).logs.filter LogEntry.tellsOfRepetition).length +
        (table.map RouteEntry.key).toFinset.card = table.length ∧
      (∀ path verb e, table.lookup path verb = some e ↔
        ∃ k, table.FirstAt path (Text.lower verb) k e) ∧
      (∀ path verb, table.lookup path verb = none ↔
        (path, Text.lower verb) ∉ table.map RouteEntry.key) ∧
      (∀ path verb k e, table.FirstAt path verb k e → ¬ WarnsAt opts views k) ∧
      (table.reached.map RouteEntry.key).Nodup ∧
      (∀ path verb, table.reached.lookup path verb = table.lookup path verb) ∧
      table.reached.paths = table.paths := by
  have hlogs := filter_logs_of_compile hcompile
  refine ⟨warnsAt_iff hcompile, hlogs, ?_, fun _ _ _ => lookup_eq_some_iff,
    fun _ _ => lookup_eq_none_iff, ?_, table.nodup_keys_reached, table.lookup_reached,
    table.paths_reached⟩
  · rw [hlogs, List.length_map]
    exact table.length_repeated_add_card
  · intro path verb k e hfirst
    rw [warnsAt_iff hcompile, hfirst.repeatsAt_eq_false]
    exact Bool.false_ne_true

/-! The same root twice. -/

theorem compile_twice : (compile ⟨"api", "v1", false⟩ (.list [twiceSpelt, twiceSpelt])).result =
    .ok [lastSpelt, lastSpelt] := by
  simp only [compile, Value.items?, compileRoots, runRoots, runRoot, read_twiceSpelt]
  rfl

theorem second_root_shadowed :
    (compile ⟨"api", "v1", false⟩ (.list [twiceSpelt, twiceSpelt])).result =
        .ok [lastSpelt, lastSpelt] ∧
      ¬ WarnsAt ⟨"api", "v1", false⟩ (.list [twiceSpelt, twiceSpelt]) 0 ∧
      WarnsAt ⟨"api", "v1", false⟩ (.list [twiceSpelt, twiceSpelt]) 1 ∧
      (compile ⟨"api", "v1", false⟩ (.list [twiceSpelt, twiceSpelt])).logs.filter
        LogEntry.tellsOfRepetition = [shadowWarning lastSpelt] ∧
      reached [lastSpelt, lastSpelt] = [lastSpelt] := by
  obtain ⟨hwarns, hlogs, -⟩ := shadowed_exactly_if_warned compile_twice
  refine ⟨compile_twice, ?_, (hwarns 1).mpr (by decide), hlogs.trans rfl, rfl⟩
  rw [hwarns 0]
  decide

end RouteTable

end Gatehouse
