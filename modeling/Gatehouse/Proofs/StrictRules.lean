import Gatehouse.Proofs.Origins

/-!
# Strict rules stop where lax ones pass over

Lax rules pass over a node that holds nothing and over a root without a url, and say so.
Strict rules refuse the first of these gaps and do nothing else differently. Declarations
are read by the same rules in both cases, and once all of them are read the two runs go
through one list of steps: `runRoots_of_read`. Either the list has no gap, and then the
runs agree to the last record, or it splits at the first one, up to which they agree.

Where a gap is can be said without compiling anything, as it was said for entries:
`Origin.Leaves` goes down to the node and composes its path. A node that holds nothing has
no verbs, so its origin is the one that its first verb would have, and gaps are in the same
order as entries.
-/

namespace Gatehouse

variable {κ : Type}

/-- What lax rules pass over. -/
inductive Gap where
  /-- The node at a path has neither handlers nor children. -/
  | node (path : String)
  /-- A root has no url. -/
  | root

namespace Gap

/-- What is said about a gap that is passed over. -/
def warning : Gap → LogEntry
  | .node path => RouteTable.compilerLog .warning
      ("Route node at " ++ path ++ " has neither methods nor children -- skipped")
  | .root => RouteTable.compilerLog .warning "Root route view without url -- skipped"

/-- The error with which a gap is refused. -/
def error : Gap → SpecError κ
  | .node path => .emptyNode path
  | .root => .rootWithoutUrl

theorem error_source (g : Gap) : (g.error : SpecError κ).source = .rule := by
  cases g <;> rfl

end Gap

/-- Whether a record tells of a gap. -/
def LogEntry.TellsOfGap (l : LogEntry) : Prop := ∃ g : Gap, l = g.warning

/-- `o.Leaves opts trees g`: what `trees` declare at `o` is the gap `g`. -/
inductive Origin.Leaves (opts : CompileOptions) (trees : List (RouteTree κ)) :
    Origin → Gap → Prop
  | root {root : RouteTree κ} {i : Nat} (hroot : trees[i]? = some root)
      (hurl : root.url = none) : Leaves opts trees ⟨[i], 0⟩ .root
  | node {root node : RouteTree κ} {i : Nat} {url : String} {way : List Nat}
      {chain : List (String × RouteTree κ)} (hroot : trees[i]? = some root)
      (hurl : root.url = some url) (hdown : root.Descends way chain node)
      (hempty : node.shape = .empty) :
      Leaves opts trees ⟨i :: way, 0⟩
        (.node ("/" ++ opts.base ++ "/" ++ root.versionOr opts.defaultVersion ++ url ++
          RouteTree.chainPath chain))

theorem Origin.Before.asymm {o o' : Origin} (h : o.Before o') : ¬ o'.Before o := by
  rintro (hway' | ⟨hway', hverb'⟩)
  · rcases h with hway | ⟨hway, -⟩
    · exact List.lt_asymm hway hway'
    · rw [hway] at hway'
      exact List.lt_irrefl _ hway'
  · rcases h with hway | ⟨-, hverb⟩
    · rw [hway'] at hway
      exact List.lt_irrefl _ hway
    · omega

/-! ## The gaps of one tree -/

/-- The gap that a step tells of. -/
def LayoutStep.gap? : LayoutStep κ → Option Gap
  | .entry _ => none
  | .emptyNode path => some (.node path)
  | .rootWithoutUrl => some .root

namespace RouteTree

/-- The gaps of a node at a path and of all that is below it. -/
def gaps (path : String) (isRoot : Bool) (t : RouteTree κ) : List Gap :=
  (t.layout path isRoot).filterMap LayoutStep.gap?

/-- The gap that the node itself is. -/
def ownGaps (path : String) (t : RouteTree κ) : List Gap :=
  if t.shape = .empty then [.node path] else []

theorem emptySteps_gaps (path : String) (t : RouteTree κ) :
    (t.emptySteps path).filterMap LayoutStep.gap? = t.ownGaps path := by
  rw [emptySteps, ownGaps]
  cases t.shape <;> rfl

theorem ownSteps_gaps (path : String) (t : RouteTree κ) :
    (t.ownSteps path).filterMap LayoutStep.gap? = [] := by
  rw [ownSteps, List.filterMap_map]
  exact List.filterMap_eq_nil_iff.mpr fun _ _ => rfl

/-- A node comes before what lies below it, as it does among the entries. -/
theorem gaps_eq (path : String) (isRoot : Bool) (t : RouteTree κ) :
    t.gaps path isRoot = t.ownGaps path ++
      (t.children.map fun c => c.2.gaps (childPath path isRoot c.1 c.2) false).flatten := by
  obtain ⟨url, version, methods, visibility, roles, children⟩ := t
  rw [gaps, layout]
  simp only [List.filterMap_append, emptySteps_gaps, ownSteps_gaps, layoutChildren_eq_flatten,
    List.filterMap_flatten, List.map_map, List.append_nil]
  rfl

/-- The origin of the gap that a node itself is. -/
def ownGapSites (t : RouteTree κ) : List Origin := if t.shape = .empty then [⟨[], 0⟩] else []

/-- The origins of the gaps below a node, the node itself standing for the first. -/
def gapSites : RouteTree κ → List Origin
  | ⟨url, version, methods, visibility, roles, children⟩ =>
    ownGapSites ⟨url, version, methods, visibility, roles, children⟩ ++
      Origin.numbered (gapSitesOfEach children)
where
  gapSitesOfEach : List (String × RouteTree κ) → List (List Origin)
    | [] => []
    | (_, child) :: rest => gapSites child :: gapSitesOfEach rest

theorem gapSitesOfEach_eq_map (cs : List (String × RouteTree κ)) :
    gapSites.gapSitesOfEach cs = cs.map fun c => c.2.gapSites := by
  induction cs with
  | nil => rw [gapSites.gapSitesOfEach]; rfl
  | cons c rest ih =>
      obtain ⟨key, child⟩ := c
      rw [gapSites.gapSitesOfEach, ih]
      rfl

theorem gapSites_eq (t : RouteTree κ) :
    t.gapSites = t.ownGapSites ++ Origin.numbered (t.children.map fun c => c.2.gapSites) := by
  obtain ⟨url, version, methods, visibility, roles, children⟩ := t
  rw [gapSites, gapSitesOfEach_eq_map]

theorem pairwise_gapSites (t : RouteTree κ) : t.gapSites.Pairwise Origin.Before := by
  induction t using induction with
  | h t ih =>
      rw [gapSites_eq, ownGapSites, List.pairwise_append]
      refine ⟨by split <;> simp, Origin.pairwise_numbered ?_, ?_⟩
      · intro l hl
        obtain ⟨c, hc, rfl⟩ := List.mem_map.mp hl
        exact ih c hc
      · intro o ho o' ho'
        obtain ⟨i, o'', rfl⟩ := Origin.eq_under_of_mem_numbered ho'
        split at ho
        · rw [List.mem_singleton.mp ho]
          exact Or.inl List.Lex.nil
        · cases ho

theorem mem_gapSites {t node : RouteTree κ} {way : List Nat}
    {chain : List (String × RouteTree κ)} (hdown : t.Descends way chain node)
    (hempty : node.shape = .empty) : ⟨way, 0⟩ ∈ t.gapSites := by
  induction hdown with
  | here t =>
      rw [gapSites_eq, ownGapSites, if_pos hempty]
      exact List.mem_append_left _ List.mem_cons_self
  | @down t child n i key way chain hchild hdown ih =>
      rw [gapSites_eq]
      refine List.mem_append_right _ (Origin.mem_numbered (o := ⟨way, 0⟩) ?_ (ih hempty))
      rw [List.getElem?_map, hchild]
      rfl

/-- A gap below a node whose path was handed down. -/
inductive LeavesBelow (path : String) (isRoot : Bool) (t : RouteTree κ) : Origin → Gap → Prop
  | intro {node : RouteTree κ} {way : List Nat} {chain : List (String × RouteTree κ)}
      (hdown : t.Descends way chain node) (hempty : node.shape = .empty) :
      LeavesBelow path isRoot t ⟨way, 0⟩ (.node (path ++ pathBelow isRoot chain))

theorem leavesBelow_under {path : String} {isRoot : Bool} {t child : RouteTree κ} {i : Nat}
    {key : String} (hchild : t.children[i]? = some (key, child)) {o : Origin} {g : Gap}
    (h : child.LeavesBelow (childPath path isRoot key child) false o g) :
    t.LeavesBelow path isRoot (o.under i) g := by
  obtain ⟨hdown, hempty⟩ := h
  rw [childPath_append]
  exact LeavesBelow.intro (Descends.down hchild hdown) hempty

theorem forall₂_ownGaps (path : String) (isRoot : Bool) (t : RouteTree κ) :
    List.Forall₂ (t.LeavesBelow path isRoot) t.ownGapSites (t.ownGaps path) := by
  rw [ownGapSites, ownGaps]
  split
  · next hempty =>
      have h : t.LeavesBelow path isRoot ⟨[], 0⟩ _ := LeavesBelow.intro (Descends.here t) hempty
      rw [show pathBelow isRoot ([] : List (String × RouteTree κ)) = "" by cases isRoot <;> rfl,
        String.append_empty] at h
      exact List.Forall₂.cons h List.Forall₂.nil
  · exact List.Forall₂.nil

theorem forall₂_gaps (t : RouteTree κ) (path : String) (isRoot : Bool) :
    List.Forall₂ (t.LeavesBelow path isRoot) t.gapSites (t.gaps path isRoot) := by
  induction t using induction generalizing path isRoot with
  | h t ih =>
      rw [gapSites_eq, gaps_eq]
      refine List.rel_append (forall₂_ownGaps path isRoot t) (Origin.forall₂_numbered ?_)
      intro i c hc
      exact (ih c (List.mem_of_getElem? hc) _ _).imp fun o g h => leavesBelow_under hc h

end RouteTree

/-! ## The gaps of a list of trees -/

namespace RouteTable

/-- The steps of a list of trees, root after root. -/
def steps (opts : CompileOptions) (trees : List (RouteTree κ)) : List (LayoutStep κ) :=
  trees.flatMap fun t => t.layoutRoot opts

/-- The gaps of a root; one without a url is itself the only one. -/
def rootGaps (opts : CompileOptions) (t : RouteTree κ) : List Gap :=
  (t.layoutRoot opts).filterMap LayoutStep.gap?

def rootGapSites (t : RouteTree κ) : List Origin :=
  match t.url with
  | none => [⟨[], 0⟩]
  | some _ => t.gapSites

theorem steps_gaps (opts : CompileOptions) (trees : List (RouteTree κ)) :
    (steps opts trees).filterMap LayoutStep.gap? = (trees.map (rootGaps opts)).flatten := by
  rw [steps, List.filterMap_flatMap, List.flatMap_def]
  rfl

theorem forall₂_rootGaps {opts : CompileOptions} {trees : List (RouteTree κ)} {i : Nat}
    {t : RouteTree κ} (ht : trees[i]? = some t) :
    List.Forall₂ (fun o g => Origin.Leaves opts trees (o.under i) g) (rootGapSites t)
      (rootGaps opts t) := by
  rw [rootGapSites, rootGaps, RouteTree.layoutRoot]
  cases hurl : t.url with
  | none => exact List.Forall₂.cons (.root ht hurl) List.Forall₂.nil
  | some url =>
      refine (t.forall₂_gaps _ true).imp ?_
      rintro o g ⟨hdown, hempty⟩
      rw [mountPath_eq hurl]
      exact .node ht hurl hdown hempty

theorem pairwise_rootGapSites (t : RouteTree κ) : (rootGapSites t).Pairwise Origin.Before := by
  rw [rootGapSites]
  split
  · exact List.pairwise_singleton _ _
  · exact t.pairwise_gapSites

theorem mem_rootGapSites {opts : CompileOptions} {trees : List (RouteTree κ)} {o : Origin}
    {g : Gap} (h : Origin.Leaves opts trees o g) :
    o ∈ Origin.numbered (trees.map rootGapSites) := by
  cases h with
  | root hroot hurl =>
      refine Origin.mem_numbered (o := ⟨[], 0⟩) (l := [⟨[], 0⟩]) ?_ List.mem_cons_self
      rw [List.getElem?_map, hroot, Option.map_some, rootGapSites, hurl]
  | node hroot hurl hdown hempty =>
      refine Origin.mem_numbered (o := ⟨_, 0⟩) ?_ (RouteTree.mem_gapSites hdown hempty)
      rw [List.getElem?_map, hroot, Option.map_some, rootGapSites, hurl]

/-- The first gap that the steps tell of is at the first origin that leaves one. -/
theorem exists_first_gap {opts : CompileOptions} {trees : List (RouteTree κ)} {g : Gap}
    {gs : List Gap} (h : (steps opts trees).filterMap LayoutStep.gap? = g :: gs) :
    ∃ o, Origin.Leaves opts trees o g ∧
      ∀ o' g', Origin.Leaves opts trees o' g' → ¬ o'.Before o := by
  have hsites : List.Forall₂ (Origin.Leaves opts trees)
      (Origin.numbered (trees.map rootGapSites)) (g :: gs) := by
    rw [← h, steps_gaps]
    exact Origin.forall₂_numbered fun _ _ ht => forall₂_rootGaps ht
  have hordered : (Origin.numbered (trees.map rootGapSites)).Pairwise Origin.Before := by
    refine Origin.pairwise_numbered ?_
    intro l hl
    obtain ⟨t, -, rfl⟩ := List.mem_map.mp hl
    exact pairwise_rootGapSites t
  have hall : ∀ o' g', Origin.Leaves opts trees o' g' →
      o' ∈ Origin.numbered (trees.map rootGapSites) := fun _ _ h => mem_rootGapSites h
  generalize Origin.numbered (trees.map rootGapSites) = sites at hsites hordered hall
  cases hsites with
  | @cons o _ sites _ hfirst _ =>
      refine ⟨o, hfirst, fun o' g' hleaves hbefore => ?_⟩
      rcases List.mem_cons.mp (hall o' g' hleaves) with rfl | hmem
      · exact hbefore.asymm hbefore
      · exact hbefore.asymm ((List.pairwise_cons.mp hordered).1 o' hmem)

/-! ## Two runs over one list of steps -/

theorem runSteps_append (strict : Bool) (p : Progress κ) (xs ys : List (LayoutStep κ)) :
    runSteps strict p (xs ++ ys) =
      (runSteps strict p xs).bind fun p => runSteps strict p ys := by
  induction xs generalizing p with
  | nil => rfl
  | cons s xs ih =>
      rw [List.cons_append, runSteps, runSteps]
      cases step strict p s with
      | error e => rfl
      | ok p => exact ih p

/-- Roots that are all read are compiled as one list of steps. -/
theorem runRoots_of_read {opts : CompileOptions} {roots : List (Value κ)}
    {trees : List (RouteTree κ)}
    (h : List.Forall₂ (fun v t => RouteTree.read v = .ok t) roots trees) (p : Progress κ) :
    runRoots opts p roots = runSteps opts.strict p (steps opts trees) := by
  induction h generalizing p with
  | nil => rfl
  | cons hread _ ih =>
      rw [runRoots, runRoot, hread, steps, List.flatMap_cons, runSteps_append]
      simp only []
      cases runSteps opts.strict p (RouteTree.layoutRoot opts _) with
      | error e => rfl
      | ok p => exact ih p

/-- Nothing in some records tells of a gap. -/
def Quiet (logs : List LogEntry) : Prop := ∀ l ∈ logs, ¬ l.TellsOfGap

theorem Quiet.append {logs more : List LogEntry} (h : Quiet logs) (hmore : Quiet more) :
    Quiet (logs ++ more) := fun l hl =>
  (List.mem_append.mp hl).elim (h l) (hmore l)

theorem quiet_warnings (e : RouteEntry κ) (held : Bool) :
    Quiet (if held then
      [compilerLog .warning ("Duplicate route " ++ Text.upper e.verb ++ " " ++ e.path ++
        " -- later declaration is shadowed")]
      else []) := by
  split
  · rintro l hl ⟨g, hg⟩
    rw [List.mem_singleton.mp hl] at hg
    cases g <;>
      simpa [Gap.warning, compilerLog, ← String.toList_inj] using congrArg LogEntry.message hg
  · exact fun l hl => absurd hl List.not_mem_nil

/-- A step that tells of no gap is the same for strict rules as for lax ones. -/
theorem step_of_gap?_eq_none {s : LayoutStep κ} (h : s.gap? = none) {p : Progress κ}
    (hp : Quiet p.logs) : ∃ p', Quiet p'.logs ∧ ∀ strict, step strict p s = .ok p' := by
  cases s with
  | entry e => exact ⟨_, hp.append (quiet_warnings e _), fun _ => rfl⟩
  | emptyNode path => cases h
  | rootWithoutUrl => cases h

/-- A gap is passed over, and told, or refused. -/
theorem step_of_gap?_eq_some {s : LayoutStep κ} {g : Gap} (h : s.gap? = some g)
    (p : Progress κ) : step true p s = .error g.error ∧
      step false p s = .ok { p with logs := p.logs ++ [g.warning] } := by
  cases s with
  | entry e => cases h
  | emptyNode path => injection h with h; subst h; exact ⟨rfl, rfl⟩
  | rootWithoutUrl => injection h with h; subst h; exact ⟨rfl, rfl⟩

/-- Without a gap the two runs are one. -/
theorem runSteps_of_gaps_eq_nil {steps : List (LayoutStep κ)}
    (h : steps.filterMap LayoutStep.gap? = []) {p : Progress κ} (hp : Quiet p.logs) :
    ∃ p', Quiet p'.logs ∧ ∀ strict, runSteps strict p steps = .ok p' := by
  induction steps generalizing p with
  | nil => exact ⟨p, hp, fun _ => rfl⟩
  | cons s rest ih =>
      rw [List.filterMap_eq_nil_iff, List.forall_mem_cons] at h
      obtain ⟨p₁, hp₁, hstep⟩ := step_of_gap?_eq_none h.1 hp
      obtain ⟨p', hp', hrest⟩ := ih (List.filterMap_eq_nil_iff.mpr h.2) hp₁
      refine ⟨p', hp', fun strict => ?_⟩
      rw [runSteps, hstep strict]
      exact hrest strict

/-- What has been said stays said. -/
theorem logs_prefix_of_runSteps {strict : Bool} {steps : List (LayoutStep κ)}
    {p p' : Progress κ} (h : runSteps strict p steps = .ok p') : p.logs <+: p'.logs := by
  induction steps generalizing p with
  | nil =>
      injection h with h
      subst h
      exact List.prefix_rfl
  | cons s rest ih =>
      rw [runSteps] at h
      cases hstep : step strict p s with
      | error e => rw [hstep] at h; cases h
      | ok p₁ =>
          rw [hstep] at h
          refine List.IsPrefix.trans ?_ (ih h)
          cases s with
          | entry e => injection hstep with hstep; subst hstep; exact List.prefix_append _ _
          | _ =>
              rw [step] at hstep
              split at hstep
              · cases hstep
              · injection hstep with hstep
                subst hstep
                exact List.prefix_append _ _

/-- At the first gap the strict run ends and the lax one goes on. -/
theorem runSteps_of_gaps_eq_cons {steps : List (LayoutStep κ)} {g : Gap} {gs : List Gap}
    (h : steps.filterMap LayoutStep.gap? = g :: gs) {p : Progress κ} (hp : Quiet p.logs) :
    ∃ before behind table, Quiet before ∧
      runSteps true p steps = .error (g.error, before) ∧
      runSteps false p steps = .ok ⟨table, before ++ g.warning :: behind⟩ := by
  obtain ⟨ahead, s, rest, rfl, hahead, hs, -⟩ := List.filterMap_eq_cons_iff.mp h
  obtain ⟨p₁, hp₁, hrun⟩ :=
    runSteps_of_gaps_eq_nil (List.filterMap_eq_nil_iff.mpr hahead) hp
  obtain ⟨hstrict, hlax⟩ := step_of_gap?_eq_some hs p₁
  obtain ⟨⟨table, logs⟩, hrest⟩ := runSteps_lax { p₁ with logs := p₁.logs ++ [g.warning] } rest
  obtain ⟨behind, hbehind⟩ := logs_prefix_of_runSteps hrest
  refine ⟨p₁.logs, behind, table, hp₁, ?_, ?_⟩
  · rw [runSteps_append, hrun, Except.bind, runSteps, hstrict]
  · rw [runSteps_append, hrun, Except.bind, runSteps, hlax]
    simp only [hrest]
    rw [← show _ = logs from hbehind, List.append_assoc]
    rfl

/-! ## Two compilations -/

/-- What is said when all is compiled. -/
def summary (table : RouteTable κ) : LogEntry :=
  compilerLog .info ("Compiled " ++ toString table.length ++ " route(s) across " ++
    toString table.paths.length ++ " path(s)")

section Read

variable {opts : CompileOptions} {roots : List (Value κ)} {trees : List (RouteTree κ)}
  (hread : List.Forall₂ (fun v t => RouteTree.read v = .ok t) roots trees)

include hread

theorem compile_of_runSteps_ok {p : Progress κ}
    (h : runSteps opts.strict .empty (steps opts trees) = .ok p) :
    compile opts (.list roots) = ⟨.ok p.table, p.logs ++ [summary p.table]⟩ := by
  simp only [compile, Value.items?, compileRoots, runRoots_of_read hread, h]
  rfl

theorem compile_of_runSteps_error {e : SpecError κ} {logs : List LogEntry}
    (h : runSteps opts.strict .empty (steps opts trees) = .error (e, logs)) :
    compile opts (.list roots) = ⟨.error e, logs⟩ := by
  simp only [compile, Value.items?, compileRoots, runRoots_of_read hread, h]

end Read

theorem exists_read_of_compile {opts : CompileOptions} {roots : List (Value κ)}
    {table : RouteTable κ} (h : (compile opts (.list roots)).result = .ok table) :
    ∃ trees, List.Forall₂ (fun v t => RouteTree.read v = .ok t) roots trees := by
  obtain ⟨trees, htrees, -⟩ := compile_laidOut_sites h
  exact ⟨trees, htrees⟩

theorem quiet_summary (table : RouteTable κ) : Quiet [summary table] := by
  rintro l hl ⟨g, hg⟩
  rw [List.mem_singleton.mp hl] at hg
  cases g <;> cases congrArg LogEntry.level hg

/-- Strict rules compile what lax ones compile without passing anything over, to the same
table with the same records. What lax rules compile otherwise is refused for the first gap,
and nothing but what lax rules say before they come to it has been said until then. -/
theorem strict_filters_lax (base version : String) (roots : List (Value κ)) :
    let lax := compile ⟨base, version, false⟩ (.list roots)
    let strict := compile ⟨base, version, true⟩ (.list roots)
    ((∃ table, strict.result = .ok table) ↔
        (∃ table, lax.result = .ok table) ∧ ∀ l ∈ lax.logs, ¬ l.TellsOfGap) ∧
      ((∃ table, strict.result = .ok table) → strict = lax) ∧
      ((∃ table, lax.result = .ok table) → (∃ l ∈ lax.logs, l.TellsOfGap) →
        ∃ trees o g before behind,
          List.Forall₂ (fun v t => RouteTree.read v = .ok t) roots trees ∧
          Origin.Leaves ⟨base, version, false⟩ trees o g ∧
          (∀ o' g', Origin.Leaves ⟨base, version, false⟩ trees o' g' → ¬ o'.Before o) ∧
          lax.logs = before ++ g.warning :: behind ∧ (∀ l ∈ before, ¬ l.TellsOfGap) ∧
          strict = ⟨.error g.error, before⟩ ∧ (g.error : SpecError κ).source = .rule) := by
  intro lax strict
  by_cases hread : ∃ trees, List.Forall₂ (fun v t => RouteTree.read v = .ok t) roots trees
  · obtain ⟨trees, hread⟩ := hread
    cases hgaps : (steps ⟨base, version, false⟩ trees).filterMap LayoutStep.gap? with
    | nil =>
        obtain ⟨p, hp, hrun⟩ := runSteps_of_gaps_eq_nil hgaps (p := Progress.empty)
          fun l hl => absurd hl List.not_mem_nil
        have hlax : lax = _ := compile_of_runSteps_ok hread (hrun false)
        have hstrict : strict = _ := compile_of_runSteps_ok hread (hrun true)
        have hquiet : Quiet (p.logs ++ [summary p.table]) := hp.append (quiet_summary p.table)
        rw [hlax, hstrict]
        refine ⟨⟨fun h => ⟨h, hquiet⟩, fun h => h.1⟩, fun _ => rfl, ?_⟩
        rintro - ⟨l, hl, htells⟩
        exact absurd htells (hquiet l hl)
    | cons g gs =>
        obtain ⟨before, behind, table, hquiet, hstrictRun, hlaxRun⟩ :=
          runSteps_of_gaps_eq_cons hgaps (p := Progress.empty)
            fun l hl => absurd hl List.not_mem_nil
        have hlax : lax = _ := compile_of_runSteps_ok hread hlaxRun
        have hstrict : strict = _ := compile_of_runSteps_error hread hstrictRun
        obtain ⟨o, hleaves, hfirst⟩ := exists_first_gap hgaps
        rw [hlax, hstrict]
        refine ⟨⟨nofun, fun h => absurd ⟨g, rfl⟩ (h.2 g.warning (by simp))⟩, nofun, ?_⟩
        intro _ _
        exact ⟨trees, o, g, before, behind ++ [summary table], hread, hleaves, hfirst,
          by simp, hquiet, rfl, g.error_source⟩
  · have hlax : ¬ ∃ table, lax.result = .ok table := fun ⟨_, h⟩ =>
      hread (exists_read_of_compile h)
    have hstrict : ¬ ∃ table, strict.result = .ok table := fun ⟨_, h⟩ =>
      hread (exists_read_of_compile h)
    exact ⟨⟨fun h => absurd h hstrict, fun h => absurd h.1 hlax⟩,
      fun h => absurd h hstrict, fun h => absurd h hlax⟩

end RouteTable

end Gatehouse
