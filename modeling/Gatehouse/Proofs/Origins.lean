import Gatehouse.Route.Compile
import Mathlib.Data.List.Forall2

/-!
# Where the entries of a table come from

A table is a flat list, and what is in it was declared somewhere in the trees. This
file says where. An origin names a verb of a node by places alone: the place of the
root among the roots, a place among the children for each step down, and the place
of the verb. In a mapping each key has one place, so this is the chain of keys and
the verb; places have the advantage that they are in order.

`Declares` says what is declared at an origin without compiling anything: the node
is reached by going down, its path is composed of the keys that were met on the
way, and a root without a url declares nothing. `LaidOut` then says what a table
has to do with its trees: it has what is declared at the origins that declare
something, all of them and each of them once, and the origins are in order. That
order puts a node before what lies below it and all of that before the next
sibling, which is the order of lists of numbers as words are ordered in a
dictionary.

The compiler passes a path down while it walks; `Declares` composes the path from
the root. The two meet in `forall₂_entries`, by induction on the tree, where the
path handed down is arbitrary.
-/

namespace Gatehouse

variable {κ : Type}

/-- Where an entry is declared: the places on the way to its node, the first of them
among the roots and the others among children, and the place of its verb. -/
structure Origin where
  way : List Nat
  verb : Nat

namespace Origin

/-- The order in which entries are laid out. -/
def Before (o o' : Origin) : Prop :=
  o.way < o'.way ∨ (o.way = o'.way ∧ o.verb < o'.verb)

/-- The origin seen from one step further up. -/
def under (i : Nat) (o : Origin) : Origin := ⟨i :: o.way, o.verb⟩

theorem before_under {i : Nat} {o o' : Origin} (h : o.Before o') :
    (o.under i).Before (o'.under i) := by
  rcases h with hway | ⟨hway, hverb⟩
  · exact Or.inl (List.cons_lt_cons_self.mpr hway)
  · exact Or.inr ⟨congrArg (i :: ·) hway, hverb⟩

theorem before_of_lt {i j : Nat} (h : i < j) (o o' : Origin) :
    (o.under i).Before (o'.under j) :=
  Or.inl (List.Lex.rel h)

/-- The origins of several lists, each list one step below its own place. -/
def numbered (ls : List (List Origin)) : List Origin :=
  (ls.mapIdx fun i l => l.map (under i)).flatten

theorem pairwise_numbered {ls : List (List Origin)} (h : ∀ l ∈ ls, l.Pairwise Before) :
    (numbered ls).Pairwise Before := by
  rw [numbered, List.pairwise_flatten]
  constructor
  · intro l hl
    obtain ⟨i, hi, rfl⟩ := List.mem_mapIdx.mp hl
    rw [List.pairwise_map]
    exact (h _ (List.getElem_mem hi)).imp before_under
  · rw [List.pairwise_iff_getElem]
    intro i j hi hj hij x hx y hy
    rw [List.getElem_mapIdx] at hx hy
    obtain ⟨o, -, rfl⟩ := List.mem_map.mp hx
    obtain ⟨o', -, rfl⟩ := List.mem_map.mp hy
    exact before_of_lt hij o o'

theorem mem_numbered {ls : List (List Origin)} {i : Nat} {l : List Origin} {o : Origin}
    (hl : ls[i]? = some l) (ho : o ∈ l) : o.under i ∈ numbered ls := by
  obtain ⟨hi, rfl⟩ := List.getElem?_eq_some_iff.mp hl
  rw [numbered, List.mem_flatten]
  exact ⟨_, List.mem_mapIdx.mpr ⟨i, hi, rfl⟩, List.mem_map_of_mem ho⟩

theorem eq_under_of_mem_numbered {ls : List (List Origin)} {o : Origin}
    (h : o ∈ numbered ls) : ∃ i o', o = under i o' := by
  rw [numbered, List.mem_flatten] at h
  obtain ⟨l, hl, ho⟩ := h
  obtain ⟨i, hi, rfl⟩ := List.mem_mapIdx.mp hl
  obtain ⟨o', -, rfl⟩ := List.mem_map.mp ho
  exact ⟨i, o', rfl⟩

theorem forall₂_numbered {β γ : Type} {R : Origin → γ → Prop} {xs : List β}
    {sites : β → List Origin} {parts : β → List γ}
    (h : ∀ i x, xs[i]? = some x →
      List.Forall₂ (fun o e => R (o.under i) e) (sites x) (parts x)) :
    List.Forall₂ R (numbered (xs.map sites)) (xs.map parts).flatten := by
  rw [numbered]
  refine List.rel_flatten ?_
  rw [List.forall₂_iff_get]
  refine ⟨by simp, fun i hi hi' => ?_⟩
  simp only [List.get_eq_getElem, List.getElem_mapIdx, List.getElem_map,
    List.forall₂_map_left_iff]
  rw [List.length_map] at hi'
  exact h i xs[i] (List.getElem?_eq_getElem hi')

end Origin

namespace RouteTree

/-- `t.Descends way chain n`: the places `way` lead from `t` down to `n`, and `chain`
has the keys and the nodes that are met. -/
inductive Descends : RouteTree κ → List Nat → List (String × RouteTree κ) → RouteTree κ → Prop
  | here (t : RouteTree κ) : Descends t [] [] t
  | down {t child n : RouteTree κ} {i : Nat} {key : String} {way : List Nat}
      {chain : List (String × RouteTree κ)} (hchild : t.children[i]? = some (key, child))
      (hdown : Descends child way chain n) :
      Descends t (i :: way) ((key, child) :: chain) n

/-- What a chain of keys adds to a path. -/
def keyPath : List (String × RouteTree κ) → String
  | [] => ""
  | (key, _) :: below => "/" ++ key ++ keyPath below

/-- What a chain that starts at a root adds to the path of the root: the child of the
root may have a url instead of its key, and no other node may. -/
def chainPath : List (String × RouteTree κ) → String
  | [] => ""
  | (key, child) :: below => child.url.getD ("/" ++ key) ++ keyPath below

/-- The version of a root: its own, unless that is empty or missing. -/
def versionOr (standard : String) (t : RouteTree κ) : String :=
  if t.version.getD "" = "" then standard else t.version.getD ""

/-- An induction over trees, with one case. -/
theorem induction {P : RouteTree κ → Prop}
    (h : ∀ t : RouteTree κ, (∀ c ∈ t.children, P c.2) → P t) (t : RouteTree κ) : P t :=
  h t fun c _ => induction h c.2
termination_by sizeOf t
decreasing_by
  next hc =>
    obtain ⟨url, version, methods, visibility, roles, children⟩ := t
    have hlt := List.sizeOf_lt_of_mem hc
    obtain ⟨key, child⟩ := c
    simp only [Prod.mk.sizeOf_spec, mk.sizeOf_spec] at hlt ⊢
    omega

end RouteTree

/-- `Declares opts trees o e`: what `trees` declare at `o` is the entry `e`. -/
inductive Origin.Declares (opts : CompileOptions) (trees : List (RouteTree κ)) :
    Origin → RouteEntry κ → Prop
  | intro {root node : RouteTree κ} {i j : Nat} {url verb : String} {handler : κ}
      {way : List Nat} {chain : List (String × RouteTree κ)}
      (hroot : trees[i]? = some root) (hurl : root.url = some url)
      (hdown : root.Descends way chain node) (hverb : node.methods[j]? = some (verb, handler)) :
      Declares opts trees ⟨i :: way, j⟩
        ⟨"/" ++ opts.base ++ "/" ++ root.versionOr opts.defaultVersion ++ url ++
            RouteTree.chainPath chain,
          verb, Policy.resolve node.visibility node.roles verb, handler⟩

/-- The table has what the trees declare, at one origin after the other. -/
structure LaidOut (opts : CompileOptions) (trees : List (RouteTree κ)) (origins : List Origin)
    (table : RouteTable κ) : Prop where
  /-- No origin comes twice, and they are in order. -/
  ordered : origins.Pairwise Origin.Before
  entries : List.Forall₂ (Origin.Declares opts trees) origins table
  complete : ∀ o e, Origin.Declares opts trees o e → o ∈ origins

/-! ## The entries of one tree -/

/-- The entry that a step adds. -/
def LayoutStep.added? : LayoutStep κ → Option (RouteEntry κ)
  | .entry e => some e
  | _ => none

namespace RouteTree

/-- The entries that a node at a path adds, with all that is below it. -/
def entries (path : String) (isRoot : Bool) (t : RouteTree κ) : List (RouteEntry κ) :=
  (t.layout path isRoot).filterMap LayoutStep.added?

/-- The entries for the node's own verbs. -/
def ownEntries (path : String) (t : RouteTree κ) : List (RouteEntry κ) :=
  t.methods.map fun m => ⟨path, m.1, Policy.resolve t.visibility t.roles m.1, m.2⟩

theorem layoutChildren_eq_flatten (path : String) (underRoot : Bool)
    (cs : List (String × RouteTree κ)) :
    layoutChildren path underRoot cs =
      (cs.map fun c => c.2.layout (childPath path underRoot c.1 c.2) false).flatten := by
  induction cs with
  | nil => rw [layoutChildren]; rfl
  | cons c rest ih =>
      obtain ⟨key, child⟩ := c
      rw [layoutChildren, ih]
      rfl

theorem emptySteps_filterMap (path : String) (t : RouteTree κ) :
    (t.emptySteps path).filterMap LayoutStep.added? = [] := by
  rw [emptySteps]
  split <;> rfl

theorem ownSteps_filterMap (path : String) (t : RouteTree κ) :
    (t.ownSteps path).filterMap LayoutStep.added? = t.ownEntries path := by
  rw [ownSteps, ownEntries, List.filterMap_map, ← List.filterMap_eq_map]
  rfl

/-- A node comes before what lies below it, and what lies below one child before the
next child. -/
theorem entries_eq (path : String) (isRoot : Bool) (t : RouteTree κ) :
    t.entries path isRoot = t.ownEntries path ++
      (t.children.map fun c => c.2.entries (childPath path isRoot c.1 c.2) false).flatten := by
  obtain ⟨url, version, methods, visibility, roles, children⟩ := t
  rw [entries, layout]
  simp only [List.filterMap_append, emptySteps_filterMap, ownSteps_filterMap,
    layoutChildren_eq_flatten, List.filterMap_flatten, List.map_map, List.nil_append]
  rfl

/-- The origins below a node, the node itself standing for the first. -/
def sites : RouteTree κ → List Origin
  | ⟨_, _, methods, _, _, children⟩ =>
    (methods.mapIdx fun j _ => ⟨[], j⟩) ++ Origin.numbered (sitesOfEach children)
where
  sitesOfEach : List (String × RouteTree κ) → List (List Origin)
    | [] => []
    | (_, child) :: rest => sites child :: sitesOfEach rest

theorem sitesOfEach_eq_map (cs : List (String × RouteTree κ)) :
    sites.sitesOfEach cs = cs.map fun c => c.2.sites := by
  induction cs with
  | nil => rw [sites.sitesOfEach]; rfl
  | cons c rest ih =>
      obtain ⟨key, child⟩ := c
      rw [sites.sitesOfEach, ih]
      rfl

theorem sites_eq (t : RouteTree κ) :
    t.sites = (t.methods.mapIdx fun j _ => ⟨[], j⟩) ++
      Origin.numbered (t.children.map fun c => c.2.sites) := by
  obtain ⟨url, version, methods, visibility, roles, children⟩ := t
  rw [sites, sitesOfEach_eq_map]

theorem pairwise_own (methods : List (String × κ)) :
    (methods.mapIdx fun j _ => (⟨[], j⟩ : Origin)).Pairwise Origin.Before := by
  rw [List.pairwise_iff_getElem]
  intro i j hi hj hij
  rw [List.getElem_mapIdx, List.getElem_mapIdx]
  exact Or.inr ⟨rfl, hij⟩

theorem pairwise_sites (t : RouteTree κ) : t.sites.Pairwise Origin.Before := by
  induction t using induction with
  | h t ih =>
      rw [sites_eq, List.pairwise_append]
      refine ⟨pairwise_own t.methods, Origin.pairwise_numbered ?_, ?_⟩
      · intro l hl
        obtain ⟨c, hc, rfl⟩ := List.mem_map.mp hl
        exact ih c hc
      · intro o ho o' ho'
        obtain ⟨j, hj, rfl⟩ := List.mem_mapIdx.mp ho
        obtain ⟨i, o'', rfl⟩ := Origin.eq_under_of_mem_numbered ho'
        exact Or.inl List.Lex.nil

theorem mem_sites {t node : RouteTree κ} {way : List Nat}
    {chain : List (String × RouteTree κ)} (hdown : t.Descends way chain node) {j : Nat}
    {m : String × κ} (hverb : node.methods[j]? = some m) : ⟨way, j⟩ ∈ t.sites := by
  induction hdown with
  | here t =>
      obtain ⟨hj, -⟩ := List.getElem?_eq_some_iff.mp hverb
      rw [sites_eq]
      exact List.mem_append_left _ (List.mem_mapIdx.mpr ⟨j, hj, rfl⟩)
  | @down t child n i key way chain hchild hdown ih =>
      rw [sites_eq]
      refine List.mem_append_right _ (Origin.mem_numbered (o := ⟨way, j⟩) ?_ (ih hverb))
      rw [List.getElem?_map, hchild]
      rfl

/-- What a chain adds to the path that was handed down to its start. -/
def pathBelow (isRoot : Bool) (chain : List (String × RouteTree κ)) : String :=
  if isRoot then chainPath chain else keyPath chain

/-- What is declared below a node whose path was handed down. -/
inductive DeclaresBelow (path : String) (isRoot : Bool) (t : RouteTree κ) :
    Origin → RouteEntry κ → Prop
  | intro {node : RouteTree κ} {j : Nat} {verb : String} {handler : κ} {way : List Nat}
      {chain : List (String × RouteTree κ)} (hdown : t.Descends way chain node)
      (hverb : node.methods[j]? = some (verb, handler)) :
      DeclaresBelow path isRoot t ⟨way, j⟩
        ⟨path ++ pathBelow isRoot chain, verb,
          Policy.resolve node.visibility node.roles verb, handler⟩

theorem childPath_append (path : String) (isRoot : Bool) (key : String) (child : RouteTree κ)
    (chain : List (String × RouteTree κ)) :
    childPath path isRoot key child ++ pathBelow false chain =
      path ++ pathBelow isRoot ((key, child) :: chain) := by
  cases isRoot with
  | false => simp [childPath, pathBelow, keyPath, String.append_assoc]
  | true =>
      cases hurl : child.url <;>
        simp [childPath, hurl, pathBelow, chainPath, String.append_assoc]

theorem declaresBelow_under {path : String} {isRoot : Bool} {t child : RouteTree κ} {i : Nat}
    {key : String} (hchild : t.children[i]? = some (key, child)) {o : Origin}
    {e : RouteEntry κ}
    (h : child.DeclaresBelow (childPath path isRoot key child) false o e) :
    t.DeclaresBelow path isRoot (o.under i) e := by
  obtain ⟨hdown, hverb⟩ := h
  rw [childPath_append]
  exact DeclaresBelow.intro (Descends.down hchild hdown) hverb

theorem forall₂_ownEntries (path : String) (isRoot : Bool) (t : RouteTree κ) :
    List.Forall₂ (t.DeclaresBelow path isRoot) (t.methods.mapIdx fun j _ => ⟨[], j⟩)
      (t.ownEntries path) := by
  rw [ownEntries, List.forall₂_map_right_iff, List.forall₂_iff_get]
  refine ⟨by simp, fun j hj hj' => ?_⟩
  simp only [List.get_eq_getElem, List.getElem_mapIdx]
  have h : t.DeclaresBelow path isRoot ⟨[], j⟩ _ :=
    DeclaresBelow.intro (Descends.here t) (List.getElem?_eq_getElem hj')
  rwa [show pathBelow isRoot ([] : List (String × RouteTree κ)) = "" by cases isRoot <;> rfl,
    String.append_empty] at h

/-- What the walk down a tree adds is what is declared below it, origin by origin. -/
theorem forall₂_entries (t : RouteTree κ) (path : String) (isRoot : Bool) :
    List.Forall₂ (t.DeclaresBelow path isRoot) t.sites (t.entries path isRoot) := by
  induction t using induction generalizing path isRoot with
  | h t ih =>
      rw [sites_eq, entries_eq]
      refine List.rel_append (forall₂_ownEntries path isRoot t) (Origin.forall₂_numbered ?_)
      intro i c hc
      exact (ih c (List.mem_of_getElem? hc) _ _).imp fun o e h => declaresBelow_under hc h

end RouteTree

/-! ## The table of a list of trees -/

namespace RouteTable

/-- The entries that a root adds. -/
def rootEntries (opts : CompileOptions) (t : RouteTree κ) : List (RouteEntry κ) :=
  (t.layoutRoot opts).filterMap LayoutStep.added?

/-- The origins below a root; one without a url has none. -/
def rootSites (t : RouteTree κ) : List Origin :=
  match t.url with
  | none => []
  | some _ => t.sites

theorem mountPath_eq {base standard url : String} {t : RouteTree κ} (hurl : t.url = some url) :
    t.mountPath base standard = "/" ++ base ++ "/" ++ t.versionOr standard ++ url := by
  rw [RouteTree.mountPath, RouteTree.versionOr, hurl]
  cases t.version <;> simp

theorem forall₂_rootEntries {opts : CompileOptions} {trees : List (RouteTree κ)} {i : Nat}
    {t : RouteTree κ} (ht : trees[i]? = some t) :
    List.Forall₂ (fun o e => Origin.Declares opts trees (o.under i) e) (rootSites t)
      (rootEntries opts t) := by
  rw [rootSites, rootEntries, RouteTree.layoutRoot]
  cases hurl : t.url with
  | none => exact List.Forall₂.nil
  | some url =>
      refine (t.forall₂_entries _ true).imp ?_
      intro o e h
      obtain ⟨hdown, hverb⟩ := h
      rw [mountPath_eq hurl]
      exact Origin.Declares.intro ht hurl hdown hverb

theorem laidOut_rootEntries (opts : CompileOptions) (trees : List (RouteTree κ)) :
    LaidOut opts trees (Origin.numbered (trees.map rootSites))
      (trees.map (rootEntries opts)).flatten where
  ordered := by
    refine Origin.pairwise_numbered ?_
    intro l hl
    obtain ⟨t, -, rfl⟩ := List.mem_map.mp hl
    rw [rootSites]
    split
    · exact List.Pairwise.nil
    · exact t.pairwise_sites
  entries := Origin.forall₂_numbered fun _ _ ht => forall₂_rootEntries ht
  complete := by
    rintro o e ⟨hroot, hurl, hdown, hverb⟩
    refine Origin.mem_numbered (o := ⟨_, _⟩) ?_ (RouteTree.mem_sites hdown hverb)
    rw [List.getElem?_map, hroot, Option.map_some, rootSites, hurl]

/-! ## Going through the steps

An entry is always put behind the table, whether or not it repeats another one, and
no remark touches the table. So the table of a run is known as soon as the run is
known to succeed; rules that are not strict refuse nothing. -/

theorem step_table {strict : Bool} {p p' : Progress κ} {s : LayoutStep κ}
    (h : step strict p s = .ok p') : p'.table = p.table ++ (s.added?).toList := by
  cases s with
  | entry e =>
      rw [step] at h
      injection h with h
      subst h
      rfl
  | emptyNode path =>
      rw [step] at h
      split at h
      · cases h
      · injection h with h
        subst h
        exact (List.append_nil _).symm
  | rootWithoutUrl =>
      rw [step] at h
      split at h
      · cases h
      · injection h with h
        subst h
        exact (List.append_nil _).symm

theorem runSteps_table {strict : Bool} {steps : List (LayoutStep κ)} {p p' : Progress κ}
    (h : runSteps strict p steps = .ok p') :
    p'.table = p.table ++ steps.filterMap LayoutStep.added? := by
  induction steps generalizing p with
  | nil =>
      rw [runSteps] at h
      injection h with h
      rw [h]
      exact (List.append_nil _).symm
  | cons s rest ih =>
      rw [runSteps] at h
      cases hs : step strict p s with
      | error e => rw [hs] at h; cases h
      | ok p₁ =>
          rw [hs] at h
          rw [ih h, step_table hs, List.append_assoc]
          cases hadded : s.added? with
          | none => rw [List.filterMap_cons_none hadded]; rfl
          | some e => rw [List.filterMap_cons_some hadded]; rfl

theorem runSteps_lax (p : Progress κ) (steps : List (LayoutStep κ)) :
    ∃ p', runSteps false p steps = .ok p' := by
  induction steps generalizing p with
  | nil => exact ⟨p, rfl⟩
  | cons s rest ih =>
      obtain ⟨p₁, hp₁⟩ : ∃ p₁, step false p s = .ok p₁ := by
        cases s <;> exact ⟨_, rfl⟩
      obtain ⟨p', hp'⟩ := ih p₁
      refine ⟨p', ?_⟩
      rw [runSteps, hp₁]
      exact hp'

theorem runRoots_table {opts : CompileOptions} {roots : List (Value κ)} {p p' : Progress κ}
    (h : runRoots opts p roots = .ok p') :
    ∃ trees, List.Forall₂ (fun v t => RouteTree.read v = .ok t) roots trees ∧
      p'.table = p.table ++ (trees.map (rootEntries opts)).flatten := by
  induction roots generalizing p with
  | nil =>
      rw [runRoots] at h
      injection h with h
      exact ⟨[], List.Forall₂.nil, by rw [h]; exact (List.append_nil _).symm⟩
  | cons v rest ih =>
      rw [runRoots, runRoot] at h
      cases hread : RouteTree.read v with
      | error e => rw [hread] at h; cases h
      | ok t =>
          rw [hread] at h
          simp only [] at h
          cases hsteps : runSteps opts.strict p (t.layoutRoot opts) with
          | error e => rw [hsteps] at h; cases h
          | ok p₁ =>
              rw [hsteps] at h
              obtain ⟨trees, htrees, htable⟩ := ih h
              refine ⟨t :: trees, List.Forall₂.cons hread htrees, ?_⟩
              rw [htable, runSteps_table hsteps, List.append_assoc]
              rfl

theorem runRoots_lax {opts : CompileOptions} (hlax : opts.strict = false)
    (trees : List (RouteTree κ)) (p : Progress κ) :
    ∃ p', runRoots opts p (trees.map .tree) = .ok p' := by
  induction trees generalizing p with
  | nil => exact ⟨p, rfl⟩
  | cons t rest ih =>
      obtain ⟨p₁, hp₁⟩ := runSteps_lax p (t.layoutRoot opts)
      obtain ⟨p', hp'⟩ := ih p₁
      refine ⟨p', ?_⟩
      rw [List.map_cons, runRoots, runRoot, RouteTree.read, hlax]
      simp only [hp₁]
      exact hp'

/-- A table that was compiled has the entries at the origins of the trees that were read. -/
theorem compile_laidOut_sites {opts : CompileOptions} {roots : List (Value κ)}
    {table : RouteTable κ} (h : (compile opts (.list roots)).result = .ok table) :
    ∃ trees, List.Forall₂ (fun v t => RouteTree.read v = .ok t) roots trees ∧
      LaidOut opts trees (Origin.numbered (trees.map rootSites)) table := by
  simp only [compile, Value.items?, compileRoots] at h
  split at h
  · cases h
  · next p hp =>
      injection h with h
      obtain ⟨trees, htrees, htable⟩ := runRoots_table hp
      refine ⟨trees, htrees, ?_⟩
      rw [← h, htable]
      exact laidOut_rootEntries opts trees

/-- A table that was compiled is laid out as the trees that were read declare it. -/
theorem compile_laidOut {opts : CompileOptions} {roots : List (Value κ)} {table : RouteTable κ}
    (h : (compile opts (.list roots)).result = .ok table) :
    ∃ trees origins, List.Forall₂ (fun v t => RouteTree.read v = .ok t) roots trees ∧
      LaidOut opts trees origins table := by
  obtain ⟨trees, htrees, hlaid⟩ := compile_laidOut_sites h
  exact ⟨trees, _, htrees, hlaid⟩

/-- Compiling trees gives, for every root with a url, every node below it and every verb
of the node, one entry where the origin says, and nothing else. -/
theorem compile_trees_laidOut (base version : String) (trees : List (RouteTree κ)) :
    ∃ table origins,
      (compile ⟨base, version, false⟩ (.list (trees.map .tree))).result = .ok table ∧
        LaidOut ⟨base, version, false⟩ trees origins table := by
  have hlax : (⟨base, version, false⟩ : CompileOptions).strict = false := rfl
  obtain ⟨p, hp⟩ := runRoots_lax hlax trees Progress.empty
  have htable : (compile ⟨base, version, false⟩ (.list (trees.map .tree))).result =
      .ok p.table := by
    simp only [compile, Value.items?, compileRoots, hp]
  obtain ⟨trees', origins, htrees, hlaid⟩ := compile_laidOut htable
  have hsame : trees' = trees := by
    rw [List.forall₂_map_left_iff] at htrees
    have heq : List.Forall₂ (fun t t' => t = t') trees trees' := by
      refine htrees.imp ?_
      intro t t' ht
      rw [RouteTree.read] at ht
      injection ht
    exact (List.forall₂_eq_eq_eq ▸ heq : trees = trees').symm
  exact ⟨p.table, origins, htable, hsame ▸ hlaid⟩

end RouteTable

end Gatehouse
