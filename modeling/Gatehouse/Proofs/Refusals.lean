import Gatehouse.Proofs.Declarations
import Gatehouse.Proofs.StrictRules

/-!
# Declarations that no rule refuses

A declaration that cannot be used is refused by the rule that it breaks, nearly always. In
three places the reader asks a value for something before it has been told whether the value
has it: unknown keys are put in order so as to be named, and the methods and the children of
a node are gone through pair by pair. `Value.Baffles` says when a declaration comes to one of
these, looking only at what is declared: up to there every check that comes before is passed,
and so are the children that come before.

The theorem at the end says that this is all: a declaration is read, or refused by a rule, or
it baffles the reader, and which of the three can be told from the declaration. Compiling adds
nothing to it, since the gaps that strict rules find are refused by rules; but a gap in an
earlier root is found first.
-/

namespace Gatehouse

variable {κ : Type}

namespace Value

/-! ## Values in order

Which values are compared is up to the way in which they are sorted. If any two of them can be
compared it does not matter, and all of them are there in the end. -/

section Sorting

variable {v : Value κ} {vs sorted rest : List (Value κ)}

theorem exists_runBehind (down : Bool)
    (h : ∀ x ∈ v :: rest, ∀ y ∈ v :: rest, ∃ b, before x y = .ok b) :
    ∃ run behind, runBehind down v rest = .ok (run, behind) ∧ run ++ behind = rest := by
  induction rest generalizing v with
  | nil => exact ⟨[], [], rfl, rfl⟩
  | cons w rest ih =>
      obtain ⟨b, hb⟩ := h w (by simp) v (by simp)
      obtain ⟨run, behind, hrun, happend⟩ := ih fun x hx y hy =>
        h x (List.mem_cons_of_mem v hx) y (List.mem_cons_of_mem v hy)
      simp only [runBehind, hb, bind, Except.bind]
      split
      · exact ⟨w :: run, behind, by rw [hrun]; rfl, by rw [List.cons_append, happend]⟩
      · exact ⟨[], w :: rest, rfl, rfl⟩

theorem exists_firstRun (h : ∀ x ∈ vs, ∀ y ∈ vs, ∃ b, before x y = .ok b) :
    ∃ run behind, firstRun vs = .ok (run, behind) ∧ (run ++ behind).Perm vs := by
  match vs with
  | [] => exact ⟨[], [], rfl, .refl _⟩
  | [v] => exact ⟨[v], [], rfl, .refl _⟩
  | v :: w :: rest =>
      obtain ⟨down, hdown⟩ := h w (by simp) v (by simp)
      have htail : ∀ x ∈ w :: rest, ∀ y ∈ w :: rest, ∃ b, before x y = .ok b := fun x hx y hy =>
        h x (List.mem_cons_of_mem v hx) y (List.mem_cons_of_mem v hy)
      obtain ⟨run, behind, hrun, happend⟩ := exists_runBehind down htail
      refine ⟨if down then (v :: w :: run).reverse else v :: w :: run, behind, ?_, ?_⟩
      · simp only [firstRun, hdown, hrun, bind, Except.bind, pure, Except.pure]
      · rw [← happend]
        split
        · exact (List.reverse_perm _).append_right behind
        · exact .refl _

theorem exists_placeIn (h : ∀ x ∈ sorted, ∃ b, before v x = .ok b) (halves low high : Nat)
    (hhigh : high ≤ sorted.length) : ∃ n, placeIn sorted v halves low high = .ok n := by
  induction halves generalizing low high with
  | zero => exact ⟨low, rfl⟩
  | succ halves ih =>
      rw [placeIn]
      by_cases hlow : low < high
      · have hmiddle : low + (high - low) / 2 < sorted.length := by omega
        obtain ⟨b, hb⟩ := h (sorted.getD (low + (high - low) / 2) .none) (by
          rw [List.getD_eq_getElem?_getD, List.getElem?_eq_getElem hmiddle]
          exact List.getElem_mem hmiddle)
        rw [if_pos hlow, hb]
        cases b with
        | true => exact ih _ _ (Nat.le_of_lt hmiddle)
        | false => exact ih _ _ hhigh
      · exact ⟨low, if_neg hlow⟩

theorem exists_insertSorted (h : ∀ x ∈ sorted, ∃ b, before v x = .ok b) :
    ∃ more, insertSorted sorted v = .ok more ∧ more.Perm (v :: sorted) := by
  obtain ⟨n, hn⟩ := exists_placeIn h sorted.length 0 sorted.length (Nat.le_refl _)
  refine ⟨sorted.take n ++ v :: sorted.drop n, by rw [insertSorted, hn]; rfl, ?_⟩
  refine List.perm_middle.trans (.cons v ?_)
  rw [List.take_append_drop]

theorem exists_foldlM_insertSorted
    (h : ∀ x ∈ rest ++ sorted, ∀ y ∈ rest ++ sorted, ∃ b, before x y = .ok b) :
    ∃ more, rest.foldlM insertSorted sorted = .ok more ∧ more.Perm (rest ++ sorted) := by
  induction rest generalizing sorted with
  | nil => exact ⟨sorted, rfl, .refl _⟩
  | cons v rest ih =>
      have hfirst : ∀ x ∈ sorted, ∃ b, before v x = .ok b := fun x hx =>
        h v (by simp) x (by simp [hx])
      obtain ⟨more, hmore, hperm⟩ := exists_insertSorted hfirst
      have hall : (rest ++ more).Perm (v :: rest ++ sorted) :=
        (hperm.append_left rest).trans List.perm_middle
      have hmore' : ∀ x ∈ rest ++ more, ∀ y ∈ rest ++ more, ∃ b, before x y = .ok b :=
        fun x hx y hy => h x (hall.mem_iff.mp hx) y (hall.mem_iff.mp hy)
      obtain ⟨all, hfold, hperm'⟩ := ih hmore'
      rw [List.foldlM_cons, hmore]
      exact ⟨all, hfold, hperm'.trans hall⟩

theorem exists_sort (h : ∀ v ∈ vs, ∀ w ∈ vs, ∃ b, before v w = .ok b) :
    ∃ sorted, sort vs = .ok sorted ∧ sorted.Perm vs := by
  obtain ⟨run, behind, hrun, hperm⟩ := exists_firstRun h
  have hswap := List.perm_append_comm.trans hperm
  have hboth : ∀ x ∈ behind ++ run, ∀ y ∈ behind ++ run, ∃ b, before x y = .ok b :=
    fun x hx y hy => h x (hswap.mem_iff.mp hx) y (hswap.mem_iff.mp hy)
  obtain ⟨sorted, hsorted, hperm'⟩ := exists_foldlM_insertSorted hboth
  rw [sort, hrun]
  exact ⟨sorted, hsorted, hperm'.trans hswap⟩

end Sorting

/-! ## What may be baffling -/

/-- Nothing or a text. -/
def IsOptionalText : Value κ → Prop
  | .none | .str _ | .unpaired _ => True
  | _ => False

/-- Whether a value that counts as given is no mapping. -/
def IsGivenApart (v : Value κ) : Prop := v.isTruthy = true ∧ ∀ entries, v ≠ .dict entries

/-- A mapping to callables, or what counts as not given. -/
def IsMethods : Value κ → Prop
  | .dict entries => ∀ p ∈ entries, ∃ f, p.2 = .callable f
  | v => v.isTruthy = false

/-- Whether all keys of a node are known. -/
def KnowsKeys (entries : List (Value κ × Value κ)) : Prop :=
  ∀ p ∈ entries, ∃ name ∈ RouteTree.knownKeys, p.1 = .str name

/-- Whether a node passes the checks that come before its methods. -/
structure IsNode (entries : List (Value κ × Value κ)) : Prop where
  keys : KnowsKeys entries
  url : (RouteTree.field "url" entries).IsOptionalText
  version : (RouteTree.field "version" entries).IsOptionalText

/-- `v.Baffles e`: what a declaration is told to be wrong with is no rule that it breaks, but
that it lacks what the reader asks it for. -/
inductive Baffles : Value κ → SpecError κ → Prop
  /-- Some keys are unknown, and two of them have no order. -/
  | keys {entries : List (Value κ × Value κ)} {left right : Value κ}
      (hsort : Value.sort ((entries.map (·.1)).filter fun k => !RouteTree.isKnown k) =
        .error (left, right)) : Baffles (.dict entries) (.unordered left.typeName right.typeName)
  /-- The methods are no mapping. -/
  | methods {entries : List (Value κ × Value κ)} (hnode : IsNode entries)
      (hmethods : (RouteTree.field "methods" entries).IsGivenApart) :
      Baffles (.dict entries) (.noPairs (RouteTree.field "methods" entries).typeName)
  /-- The children are no mapping. -/
  | children {entries : List (Value κ × Value κ)} (hnode : IsNode entries)
      (hmethods : (RouteTree.field "methods" entries).IsMethods)
      (hchildren : (RouteTree.field "children" entries).IsGivenApart) :
      Baffles (.dict entries) (.noPairs (RouteTree.field "children" entries).typeName)
  /-- A child is baffling, and those that come before it can be read. -/
  | child {entries ahead behind : List (Value κ × Value κ)} {key child : Value κ}
      {e : SpecError κ} (hnode : IsNode entries)
      (hmethods : (RouteTree.field "methods" entries).IsMethods)
      (hchildren : RouteTree.field "children" entries = .dict (ahead ++ (key, child) :: behind))
      (hahead : ∀ p ∈ ahead, ∃ t, RouteTree.read p.2 = .ok t) (hchild : child.Baffles e) :
      Baffles (.dict entries) e

/-! ## Down the children -/

/-- The members of the mapping of children, one for each key. -/
def childEntries : Value κ → List (Value κ × Value κ)
  | .dict entries =>
    match RouteTree.field "children" entries with
    | .dict children => children
    | _ => []
  | _ => []

theorem sizeOf_of_field {name : String} {entries members : List (Value κ × Value κ)}
    (h : RouteTree.field name entries = .dict members) : sizeOf members < sizeOf entries := by
  rw [RouteTree.field] at h
  cases hentry : entry? (.str name) entries with
  | none => rw [hentry] at h; cases h
  | some v =>
      rw [hentry, Option.getD_some] at h
      obtain ⟨k, hmem, -⟩ := exists_of_entry? hentry
      have hlt := List.sizeOf_lt_of_mem hmem
      rw [h] at hlt
      simp only [Prod.mk.sizeOf_spec, dict.sizeOf_spec] at hlt
      omega

theorem sizeOf_of_mem_childEntries {v : Value κ} {p : Value κ × Value κ}
    (h : p ∈ v.childEntries) : sizeOf p.2 < sizeOf v := by
  rw [childEntries.eq_def] at h
  split at h
  · next entries =>
      split at h
      · next children hchildren =>
          have hfield := sizeOf_of_field hchildren
          have hlt := List.sizeOf_lt_of_mem h
          obtain ⟨key, child⟩ := p
          simp only [Prod.mk.sizeOf_spec, dict.sizeOf_spec] at hlt ⊢
          omega
      · cases h
  · cases h

/-- An induction over declarations, with one case. -/
theorem childInduction {P : Value κ → Prop}
    (h : ∀ v : Value κ, (∀ p ∈ v.childEntries, P p.2) → P v) (v : Value κ) : P v :=
  h v fun p _ => childInduction h p.2
termination_by sizeOf v
decreasing_by
  next hp => exact sizeOf_of_mem_childEntries hp

end Value

/-! ## The rules for access and roles

Whatever is wrong with them is refused by a rule. -/

theorem Visibility.readVerbs_error {entries : List (Value κ × Value κ)} {e : SpecError κ}
    (h : readVerbs entries = .error e) : e.source = .rule := by
  induction entries with
  | nil => cases h
  | cons p rest ih =>
      rw [readVerbs] at h
      split at h
      · exact ih (eq_error_of_map_eq_error h)
      · injection h with h
        rw [← h]
        rfl

theorem Visibility.read_error {v : Value κ} {e : SpecError κ} (h : read v = .error e) :
    e.source = .rule := by
  rw [read.eq_def] at h
  split at h
  · cases h
  · exact readVerbs_error (eq_error_of_map_eq_error h)
  · split at h
    · cases h
    · injection h with h
      rw [← h]
      rfl

theorem RoleRule.readRoles_error {v : Value κ} {e : SpecError κ} (h : readRoles v = .error e) :
    e.source = .rule := by
  have hbad : ∀ {v : Value κ}, (.error (.badRoles v) : Except (SpecError κ) (List String)) =
      .error e → e.source = .rule := by
    intro v h
    injection h with h
    rw [← h]
    rfl
  rw [readRoles.eq_def] at h
  split at h
  · exact hbad h
  · exact hbad h
  · exact hbad h
  · exact hbad h
  · exact hbad h
  · split at h
    · cases h
    · exact hbad h

theorem RoleRule.readPerVerb_error {entries : List (Value κ × Value κ)} {e : SpecError κ}
    (h : readPerVerb entries = .error e) : e.source = .rule := by
  induction entries with
  | nil => cases h
  | cons p rest ih =>
      rw [readPerVerb] at h
      rcases error_or_of_bind_eq_error h with hroles | ⟨roles, -, h⟩
      · exact readRoles_error hroles
      · rcases error_or_of_bind_eq_error h with hrest | ⟨rules, -, h⟩
        · exact ih hrest
        · cases h

theorem RoleRule.read_error {v : Value κ} {e : SpecError κ} (h : read v = .error e) :
    e.source = .rule := by
  rw [read.eq_def] at h
  split at h
  · cases h
  · exact readPerVerb_error (eq_error_of_map_eq_error h)
  · exact readRoles_error (eq_error_of_map_eq_error h)

namespace RouteTree

variable {entries : List (Value κ × Value κ)} {v : Value κ} {e : SpecError κ}

/-! ## Keys, url and version -/

theorem isKnown_iff : isKnown v = true ↔ ∃ name ∈ knownKeys, v = .str name := by
  cases v <;> simp [isKnown]

theorem unknown_eq_nil_iff :
    ((entries.map (·.1)).filter fun k => !isKnown k) = [] ↔ Value.KnowsKeys entries := by
  rw [List.filter_eq_nil_iff, Value.KnowsKeys, List.forall_mem_map]
  refine forall₂_congr fun p _ => ?_
  rw [← isKnown_iff, Bool.not_eq_true', Bool.not_eq_false]

theorem checkKeys_eq_ok_iff : checkKeys entries = .ok () ↔ Value.KnowsKeys entries := by
  rw [← unknown_eq_nil_iff, checkKeys]
  split
  · next hnone => exact ⟨fun _ => hnone, fun _ => rfl⟩
  · next unknown hsome =>
      constructor
      · intro h
        split at h <;> cases h
      · exact fun h => absurd h hsome

theorem checkKeys_error (h : checkKeys entries = .error e) :
    e.source = .rule ∨ ∃ left right,
      Value.sort ((entries.map (·.1)).filter fun k => !isKnown k) = .error (left, right) ∧
        e = .unordered left.typeName right.typeName := by
  rw [checkKeys] at h
  split at h
  · cases h
  · split at h
    · injection h with h
      rw [← h]
      exact Or.inl rfl
    · next left right hsort =>
        injection h with h
        exact Or.inr ⟨left, right, hsort, h.symm⟩

theorem checkKeys_of_sort {left right : Value κ}
    (hsort : Value.sort ((entries.map (·.1)).filter fun k => !isKnown k) =
      .error (left, right)) :
    checkKeys entries = .error (.unordered left.typeName right.typeName) := by
  rw [checkKeys]
  split
  · next hnone => rw [hnone] at hsort; cases hsort
  · rw [hsort]

theorem readText_isOk_iff {wrong : Value κ → SpecError κ} :
    (∃ s, readText wrong v = .ok s) ↔ v.IsOptionalText := by
  cases v <;> simp [readText, Value.IsOptionalText]

theorem readText_error {wrong : Value κ → SpecError κ} (hwrong : ∀ v, (wrong v).source = .rule)
    (h : readText wrong v = .error e) : e.source = .rule := by
  rw [readText.eq_def] at h
  split at h
  · cases h
  · cases h
  · cases h
  · injection h with h
    rw [← h]
    exact hwrong _

/-! ## Methods -/

theorem readHandlers_isOk_iff :
    (∃ handlers, readHandlers entries = .ok handlers) ↔
      ∀ p ∈ entries, ∃ f, p.2 = .callable f := by
  induction entries with
  | nil => exact ⟨fun _ => List.forall_mem_nil _, fun _ => ⟨[], rfl⟩⟩
  | cons p rest ih =>
      obtain ⟨verb, handler⟩ := p
      rw [List.forall_mem_cons, ← ih]
      constructor
      · rintro ⟨handlers, h⟩
        cases handler with
        | callable f =>
            rw [readHandlers] at h
            obtain ⟨others, hothers, -⟩ := exists_of_map_eq_ok h
            exact ⟨⟨f, rfl⟩, others, hothers⟩
        | _ => cases h
      · rintro ⟨⟨f, hf⟩, others, hothers⟩
        simp only at hf
        subst hf
        exact ⟨_, by rw [readHandlers, hothers]; rfl⟩

theorem readHandlers_error (h : readHandlers entries = .error e) : e.source = .rule := by
  induction entries with
  | nil => cases h
  | cons p rest ih =>
      rw [readHandlers.eq_def] at h
      split at h
      · cases h
      · next heq =>
          injection heq with _ hrest
          subst hrest
          exact ih (eq_error_of_map_eq_error h)
      · injection h with h
        rw [← h]
        rfl

theorem readMethods_isOk_iff : (∃ methods, readMethods v = .ok methods) ↔ v.IsMethods := by
  cases v with
  | dict entries =>
      rw [Value.IsMethods, ← readHandlers_isOk_iff, readMethods]
      constructor
      · rintro ⟨methods, h⟩
        obtain ⟨handlers, hhandlers, -⟩ := exists_of_map_eq_ok h
        exact ⟨handlers, hhandlers⟩
      · rintro ⟨handlers, h⟩
        exact ⟨_, by rw [h]; rfl⟩
  | _ =>
      simp only [Value.IsMethods, readMethods]
      split <;> simp_all

theorem readMethods_of_isGivenApart (h : v.IsGivenApart) :
    readMethods v = .error (.noPairs v.typeName) := by
  rw [readMethods.eq_def]
  split
  · exact absurd rfl (h.2 _)
  · rw [if_pos h.1]

theorem readMethods_error (h : readMethods v = .error e) :
    e.source = .rule ∨ v.IsGivenApart ∧ e = .noPairs v.typeName := by
  rw [readMethods.eq_def] at h
  split at h
  · exact Or.inl (readHandlers_error (eq_error_of_map_eq_error h))
  · next hother =>
      split at h
      · next htruthy =>
          injection h with h
          exact Or.inr ⟨⟨htruthy, hother⟩, h.symm⟩
      · cases h

/-! ## Children -/

/-- The first child that cannot be read is what is wrong with the children. -/
theorem readChildren_eq_error_iff {children : List (Value κ × Value κ)} :
    readChildren children = .error e ↔
      Reaches (fun p => ∃ t, read p.2 = .ok t) (fun p => read p.2 = .error e) children := by
  induction children with
  | nil =>
      rw [readChildren]
      constructor
      · intro h
        cases h
      · exact fun h => absurd h not_reaches_nil
  | cons p rest ih =>
      obtain ⟨key, child⟩ := p
      rw [readChildren, reaches_cons, ← ih]
      cases hread : read child with
      | error e' => simp [bind, Except.bind]
      | ok t =>
          cases hrest : readChildren rest with
          | error e' => simp [bind, Except.bind]
          | ok others => simp [bind, Except.bind, pure, Except.pure]

theorem readChildrenField_error (h : readChildrenField entries = .error e) :
    ((field "children" entries).IsGivenApart ∧ e = .noPairs (field "children" entries).typeName) ∨
      ∃ children, field "children" entries = .dict children ∧
        readChildren children = .error e := by
  rw [readChildrenField_eq] at h
  split at h
  · next children hchildren => exact Or.inr ⟨children, hchildren, h⟩
  · next hother =>
      split at h
      · next htruthy =>
          injection h with h
          exact Or.inl ⟨⟨htruthy, hother⟩, h.symm⟩
      · cases h

theorem readChildrenField_of_isGivenApart (h : (field "children" entries).IsGivenApart) :
    readChildrenField entries = .error (.noPairs (field "children" entries).typeName) := by
  rw [readChildrenField_eq]
  split
  · next children hchildren => exact absurd hchildren (h.2 children)
  · rw [if_pos h.1]

theorem assemble_error {url version : Option String} {methods : List (String × κ)}
    {children : List (String × RouteTree κ)}
    (h : assemble url version methods entries children = .error e) : e.source = .rule := by
  rw [assemble] at h
  rcases error_or_of_bind_eq_error h with haccess | ⟨visibility, -, h⟩
  · exact Visibility.read_error haccess
  · rcases error_or_of_bind_eq_error h with hroles | ⟨roles, -, h⟩
    · exact RoleRule.read_error hroles
    · cases h

/-! ## A whole node -/

/-- Once the checks in front are passed, the methods and the children are read. -/
theorem read_of_isNode (h : Value.IsNode entries) :
    ∃ url version, read (.dict entries) = (do
      let methods ← readMethods (field "methods" entries)
      let children ← readChildrenField entries
      assemble url version methods entries (Assoc.ofList children)) := by
  obtain ⟨url, hurl⟩ : ∃ url, readText .badUrl (field "url" entries) = .ok url :=
    readText_isOk_iff.mpr h.url
  obtain ⟨version, hversion⟩ :
      ∃ version, readText .badVersion (field "version" entries) = .ok version :=
    readText_isOk_iff.mpr h.version
  refine ⟨url, version, ?_⟩
  rw [read, checkKeys_eq_ok_iff.mpr h.keys, hurl, hversion]
  rfl

theorem source_of_baffles (h : v.Baffles e) : e.source ≠ .rule := by
  induction h with
  | keys => intro hrule; cases hrule
  | methods => intro hrule; cases hrule
  | children => intro hrule; cases hrule
  | child _ _ _ _ _ ih => exact ih

/-- A declaration that is baffling ends in what baffles the reader. -/
theorem read_of_baffles (h : v.Baffles e) : read v = .error e := by
  induction h with
  | keys hsort =>
      rw [read, checkKeys_of_sort hsort]
      rfl
  | methods hnode hmethods =>
      obtain ⟨url, version, hread⟩ := read_of_isNode hnode
      rw [hread, readMethods_of_isGivenApart hmethods]
      rfl
  | children hnode hmethods hchildren =>
      obtain ⟨url, version, hread⟩ := read_of_isNode hnode
      obtain ⟨methods, hmethods⟩ := readMethods_isOk_iff.mpr hmethods
      rw [hread, hmethods, readChildrenField_of_isGivenApart hchildren]
      rfl
  | @child entries ahead behind key child e hnode hmethods hchildren hahead _ ih =>
      obtain ⟨url, version, hread⟩ := read_of_isNode hnode
      obtain ⟨methods, hmethods⟩ := readMethods_isOk_iff.mpr hmethods
      have hfield : readChildrenField entries = .error e := by
        rw [readChildrenField_eq, hchildren]
        exact readChildren_eq_error_iff.mpr ⟨ahead, _, behind, rfl, hahead, ih⟩
      rw [hread, hmethods, hfield]
      rfl

/-- What no rule refuses was baffling. -/
theorem baffles_of_read (v : Value κ) {e : SpecError κ} (h : read v = .error e)
    (hsource : e.source ≠ .rule) : v.Baffles e := by
  induction v using Value.childInduction generalizing e with
  | h v ih =>
      cases v with
      | tree t => rw [read] at h; cases h
      | dict entries =>
          rw [read] at h
          rcases error_or_of_bind_eq_error h with hkeys | ⟨_, hkeys, h⟩
          · rcases checkKeys_error hkeys with hrule | ⟨left, right, hsort, rfl⟩
            · exact absurd hrule hsource
            · exact .keys hsort
          rcases error_or_of_bind_eq_error h with hurl | ⟨url, hurl, h⟩
          · exact absurd (readText_error (fun _ => rfl) hurl) hsource
          rcases error_or_of_bind_eq_error h with hversion | ⟨version, hversion, h⟩
          · exact absurd (readText_error (fun _ => rfl) hversion) hsource
          have hnode : Value.IsNode entries := ⟨checkKeys_eq_ok_iff.mp hkeys,
            readText_isOk_iff.mp ⟨url, hurl⟩, readText_isOk_iff.mp ⟨version, hversion⟩⟩
          rcases error_or_of_bind_eq_error h with hmethods | ⟨methods, hmethods, h⟩
          · rcases readMethods_error hmethods with hrule | ⟨hapart, rfl⟩
            · exact absurd hrule hsource
            · exact .methods hnode hapart
          have hmethods := readMethods_isOk_iff.mp ⟨methods, hmethods⟩
          rcases error_or_of_bind_eq_error h with hfield | ⟨children, -, h⟩
          · rcases readChildrenField_error hfield with ⟨hapart, rfl⟩ | ⟨children, hchildren, h⟩
            · exact .children hnode hmethods hapart
            · obtain ⟨ahead, ⟨key, child⟩, behind, rfl, hahead, hchild⟩ :=
                readChildren_eq_error_iff.mp h
              have hbelow : (key, child) ∈ (Value.dict entries).childEntries := by
                rw [Value.childEntries, hchildren]
                exact List.mem_append_right ahead List.mem_cons_self
              exact .child hnode hmethods hchildren hahead (ih _ hbelow hchild hsource)
          · exact absurd (assemble_error h) hsource
      | _ =>
          simp only [read, Except.error.injEq] at h
          rw [← h] at hsource
          exact absurd rfl hsource

theorem read_baffled_iff : (read v = .error e ∧ e.source ≠ .rule) ↔ v.Baffles e :=
  ⟨fun h => baffles_of_read v h.1 h.2, fun h => ⟨read_of_baffles h, source_of_baffles h⟩⟩

end RouteTree

/-! ## A whole declaration -/

namespace RouteTable

variable {opts : CompileOptions} {e : SpecError κ} {logs : List LogEntry}

/-- What stops a run is a gap, and strict rules refuse it. -/
theorem runSteps_eq_ok_or (strict : Bool) (steps : List (LayoutStep κ)) (p : Progress κ) :
    ((∃ p', runSteps strict p steps = .ok p') ∧
        (strict = true → steps.filterMap LayoutStep.gap? = [])) ∨
      ((∃ e logs, runSteps strict p steps = .error (e, logs) ∧ e.source = .rule) ∧
        ¬ (strict = true → steps.filterMap LayoutStep.gap? = [])) := by
  cases strict with
  | false =>
      obtain ⟨p', hp'⟩ := runSteps_lax p steps
      exact Or.inl ⟨⟨p', hp'⟩, fun hstrict => by cases hstrict⟩
  | true =>
      induction steps generalizing p with
      | nil => exact Or.inl ⟨⟨p, rfl⟩, fun _ => rfl⟩
      | cons s rest ih =>
          cases hgap : s.gap? with
          | none =>
              obtain ⟨p₁, hstep⟩ : ∃ p₁, step true p s = .ok p₁ := by
                cases s with
                | entry e => exact ⟨_, rfl⟩
                | _ => cases hgap
              rw [runSteps, hstep, List.filterMap_cons_none hgap]
              exact ih p₁
          | some g =>
              refine Or.inr ⟨⟨g.error, p.logs, ?_, g.error_source⟩, fun h => ?_⟩
              · rw [runSteps, (step_of_gap?_eq_some hgap p).1]
              · rw [List.filterMap_cons_some hgap] at h
                cases h rfl

/-- Whether a root is read and leaves no gap that is refused. -/
def Passes (opts : CompileOptions) (v : Value κ) : Prop :=
  ∃ t, RouteTree.read v = .ok t ∧ (opts.strict = true → rootGaps opts t = [])

theorem runRoots_baffled_iff {roots : List (Value κ)} {p : Progress κ} :
    (∃ logs, runRoots opts p roots = .error (e, logs) ∧ e.source ≠ .rule) ↔
      Reaches (Passes opts) (·.Baffles e) roots := by
  induction roots generalizing p with
  | nil =>
      constructor
      · rintro ⟨logs, h, -⟩
        cases h
      · exact fun h => absurd h not_reaches_nil
  | cons v rest ih =>
      rw [reaches_cons, runRoots, runRoot]
      cases hread : RouteTree.read v with
      | error e' =>
          have hstops : ¬ Passes opts v := by
            rintro ⟨t, ht, -⟩
            rw [hread] at ht
            cases ht
          rw [← RouteTree.read_baffled_iff, hread]
          simp only [Except.error.injEq, Prod.mk.injEq]
          constructor
          · rintro ⟨logs, ⟨he, -⟩, hsource⟩
            exact Or.inl ⟨he, hsource⟩
          · rintro (⟨he, hsource⟩ | ⟨hpasses, -⟩)
            · exact ⟨p.logs, ⟨he, rfl⟩, hsource⟩
            · exact absurd hpasses hstops
      | ok t =>
          have hclear : ¬ v.Baffles e := by
            intro hbaffles
            rw [RouteTree.read_of_baffles hbaffles] at hread
            cases hread
          rcases runSteps_eq_ok_or opts.strict (t.layoutRoot opts) p with
            ⟨⟨p₁, hrun⟩, hgaps⟩ | ⟨⟨e', logs, hrun, hrule⟩, hgaps⟩
          · simp only [hrun]
            rw [ih]
            exact ⟨fun h => Or.inr ⟨⟨t, hread, hgaps⟩, h⟩,
              fun h => h.elim (fun hbaffles => absurd hbaffles hclear) (·.2)⟩
          · have hstops : ¬ Passes opts v := by
              rintro ⟨t', ht', hnone⟩
              rw [hread] at ht'
              injection ht' with ht'
              exact hgaps (ht' ▸ hnone)
            simp only [hrun]
            constructor
            · rintro ⟨logs', hsame, hsource⟩
              injection hsame with hsame
              injection hsame with hsame
              exact absurd (hsame ▸ hrule) hsource
            · rintro (hbaffles | ⟨hpasses, -⟩)
              · exact absurd hbaffles hclear
              · exact absurd hpasses hstops

/-- A declared node is read, or refused by a rule, or it is baffling, and so is a list of
roots: the first root that is not read and passed over, under lax rules or strict ones,
settles what becomes of it. Keys that can be compared with each other are no cause for it. -/
theorem unrefused_iff_baffling :
    (∀ (v : Value κ) (e : SpecError κ),
      (RouteTree.read v = .error e ∧ e.source ≠ .rule) ↔ v.Baffles e) ∧
    (∀ (opts : CompileOptions) (roots : List (Value κ)) (e : SpecError κ),
      ((compile opts (.list roots)).result = .error e ∧ e.source ≠ .rule) ↔
        Reaches (Passes opts) (·.Baffles e) roots) ∧
    ∀ vs : List (Value κ), (∀ v ∈ vs, ∀ w ∈ vs, ∃ b, Value.before v w = .ok b) →
      ∃ sorted, Value.sort vs = .ok sorted ∧ sorted.Perm vs := by
  refine ⟨fun v e => RouteTree.read_baffled_iff, fun opts roots e => ?_,
    fun vs => Value.exists_sort⟩
  rw [← runRoots_baffled_iff (p := Progress.empty)]
  simp only [compile, Value.items?, compileRoots]
  cases hrun : runRoots opts Progress.empty roots with
  | ok p => simp
  | error why =>
      obtain ⟨e', logs⟩ := why
      simp

/-- A node that declares its methods as a list. -/
def listedMethods : Datum := .dict [(.str "methods", .list [.int 1])]

theorem listedMethods_baffles : listedMethods.Baffles (.noPairs "list") := by
  have hfield : ∀ name, RouteTree.field name [(.str "methods", (.list [.int 1] : Datum))] =
      if "methods" = name then .list [.int 1] else .none := by
    intro name
    simp only [RouteTree.field_cons, Value.same_str_str, beq_iff_eq]
    rfl
  have hnode : Value.IsNode [(.str "methods", (.list [.int 1] : Datum))] := by
    refine ⟨fun p hp => ?_, by rw [hfield]; trivial, by rw [hfield]; trivial⟩
    rw [List.mem_singleton.mp hp]
    exact ⟨"methods", by decide, rfl⟩
  have hmethods : (RouteTree.field "methods"
      [(.str "methods", (.list [.int 1] : Datum))]).IsGivenApart := by
    rw [hfield]
    exact ⟨rfl, fun entries h => by cases h⟩
  have hbaffles := Value.Baffles.methods hnode hmethods
  rw [hfield] at hbaffles
  exact hbaffles

/-- It is refused by no rule, whether or not the rules are strict. -/
theorem listed_methods_unrefused :
    RouteTree.read listedMethods = .error (.noPairs "list") ∧
      (∀ strict, (compile ⟨"api", "v1", strict⟩ (.list [listedMethods])).result =
        .error (.noPairs "list")) ∧
      (SpecError.noPairs "list" : SpecError String).source ≠ .rule := by
  have hread := RouteTree.read_of_baffles listedMethods_baffles
  refine ⟨hread, fun strict => ?_, RouteTree.source_of_baffles listedMethods_baffles⟩
  simp only [compile, Value.items?, compileRoots, runRoots, runRoot, hread]

end RouteTable

end Gatehouse
