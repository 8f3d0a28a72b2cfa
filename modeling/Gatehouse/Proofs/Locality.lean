import Gatehouse.Proofs.Declarations

/-!
# Rules stay at their node

Whatever a node says about access and roles settles the policies of its own verbs and of
nothing else: neither what lies below it nor what stands beside it takes anything from it.
Said of two declarations: if they differ only in what one node says about access and roles,
then so do their tables only in the policies of that node's entries.

Two declarations that differ in this way are read as trees that do, or as the same tree, when
the node stands under a key whose text comes again behind it and so counts for nothing
(`differsAt_of_read`). Such trees have the same origins (`DiffersAt.sites_eq`), and what is
declared at an origin differs at most in the policy, and only where the origin is at the node
(`Declares.of_differsAt`).
-/

namespace Gatehouse

variable {κ : Type}

/-! ## Keys that come again -/

namespace Assoc

variable {α β : Type} [DecidableEq α] {ps qs : List (α × β)} {key : α} {value value' : β}

theorem last?_insert (k key : α) (value : β) (ps qs : List (α × β)) :
    last? k (ps ++ (key, value) :: qs) =
      (last? k qs).or ((if key = k then some value else none).or (last? k ps)) := by
  rw [last?, last?, last?, List.reverse_append, List.reverse_cons, List.find?_append,
    List.find?_append, Option.map_or, Option.map_or, Option.or_assoc, List.find?_singleton]
  by_cases h : key = k
  · simp only [h, decide_true, ↓reduceIte, Option.map_some]
  · simp only [h, decide_false, Bool.false_eq_true, ↓reduceIte, Option.map_none]

theorem last?_eq_none (h : key ∉ ps.map (·.1)) : last? key ps = none := by
  rw [last?, Option.map_eq_none_iff, List.find?_eq_none]
  intro p hp hkey
  rw [decide_eq_true_eq] at hkey
  exact h (List.mem_map.mpr ⟨p, List.mem_reverse.mp hp, hkey⟩)

theorem last?_isSome (h : key ∈ ps.map (·.1)) : (last? key ps).isSome = true := by
  obtain ⟨p, hp, hkey⟩ := List.mem_map.mp h
  rw [last?, Option.isSome_map, List.find?_isSome]
  exact ⟨p, List.mem_reverse.mpr hp, decide_eq_true hkey⟩

theorem keys_ofList (h : ps.map (·.1) = qs.map (·.1)) :
    (ofList ps).map (·.1) = (ofList qs).map (·.1) := by
  have hparallel : ∀ {xs ys : List (α × β)}, xs.map (·.1) = ys.map (·.1) ↔
      Parallel (fun _ _ => True) xs ys := by
    intro xs ys
    rw [Parallel, ← List.forall₂_eq_eq_eq, List.forall₂_map_left_iff, List.forall₂_map_right_iff]
    simp only [and_true]
  exact hparallel.mpr (hparallel.mp h).ofList

/-- What stands at a place is settled by the keys and by what was put last under its key. -/
theorem getElem?_ofList_iff {i : Nat} :
    (ofList ps)[i]? = some (key, value) ↔
      ((ofList ps).map (·.1))[i]? = some key ∧ last? key ps = some value := by
  have hput : ∀ {v : β}, (ofList ps)[i]? = some (key, v) → last? key ps = some v := by
    intro v h
    rw [← get?_ofList]
    exact get?_of_mem (nodup_keys_ofList ps) (List.mem_of_getElem? h)
  rw [List.getElem?_map]
  constructor
  · intro h
    exact ⟨by rw [h]; rfl, hput h⟩
  · rintro ⟨hkey, hlast⟩
    obtain ⟨⟨k, v⟩, hplace, rfl⟩ := Option.map_eq_some_iff.mp hkey
    have hsame : value = v := Option.some.inj (hlast.symm.trans (hput hplace))
    rw [hplace, hsame]

/-- What is put under a key that comes again does not matter. -/
theorem ofList_covered (h : key ∈ qs.map (·.1)) :
    ofList (ps ++ (key, value) :: qs) = ofList (ps ++ (key, value') :: qs) := by
  have hkeys : (ps ++ (key, value) :: qs).map (·.1) = (ps ++ (key, value') :: qs).map (·.1) := by
    simp
  have hlast : ∀ k, last? k (ps ++ (key, value) :: qs) = last? k (ps ++ (key, value') :: qs) := by
    intro k
    rw [last?_insert, last?_insert]
    by_cases hk : key = k
    · subst hk
      obtain ⟨v, hv⟩ := Option.isSome_iff_exists.mp (last?_isSome h)
      rw [hv, Option.some_or, Option.some_or]
    · rw [if_neg hk, if_neg hk]
  refine List.ext_getElem? fun j => Option.ext ?_
  rintro ⟨k, v⟩
  rw [getElem?_ofList_iff, getElem?_ofList_iff, keys_ofList hkeys, hlast]

/-- What is put last under a key stands at the place of the key. -/
theorem ofList_set {i : Nat} (h : key ∉ qs.map (·.1))
    (hplace : (ofList (ps ++ (key, value) :: qs))[i]? = some (key, value)) :
    ofList (ps ++ (key, value') :: qs) =
      (ofList (ps ++ (key, value) :: qs)).set i (key, value') := by
  have hkeys : (ps ++ (key, value') :: qs).map (·.1) = (ps ++ (key, value) :: qs).map (·.1) := by
    simp
  have hi := (getElem?_ofList_iff.mp hplace).1
  refine List.ext_getElem? fun j => ?_
  by_cases hj : i = j
  · subst hj
    obtain ⟨hlength, -⟩ := List.getElem?_eq_some_iff.mp hplace
    rw [List.getElem?_set_self hlength, getElem?_ofList_iff, keys_ofList hkeys, last?_insert,
      last?_eq_none h, if_pos rfl]
    exact ⟨hi, rfl⟩
  · rw [List.getElem?_set_ne hj]
    refine Option.ext ?_
    rintro ⟨k, v⟩
    rw [getElem?_ofList_iff, getElem?_ofList_iff, keys_ofList hkeys]
    refine and_congr_right fun hk => ?_
    have hother : key ≠ k := by
      rintro rfl
      obtain ⟨hlength, -⟩ := List.getElem?_eq_some_iff.mp hi
      exact hj ((List.getElem?_inj hlength (nodup_keys_ofList _)).mp (hi.trans hk.symm))
    rw [last?_insert, last?_insert, if_neg hother, if_neg hother]

end Assoc

/-! ## Trees that differ in the rules of one node -/

namespace RouteTree

/-- `t.DiffersAt way t'`: the trees are the same but for what is said about access and roles at
the node to which the places `way` lead. -/
inductive DiffersAt : List Nat → RouteTree κ → RouteTree κ → Prop
  | here (t : RouteTree κ) (visibility : Visibility) (roles : RoleRule) :
      DiffersAt [] t { t with visibility := visibility, roles := roles }
  | down {t child child' : RouteTree κ} {i : Nat} {key : String} {way : List Nat}
      (hchild : t.children[i]? = some (key, child)) (hbelow : DiffersAt way child child') :
      DiffersAt (i :: way) t { t with children := t.children.set i (key, child') }

variable {t t' n n' : RouteTree κ} {place way : List Nat}
  {chain chain' : List (String × RouteTree κ)}

theorem Descends.eq (h : t.Descends way chain n) (h' : t.Descends way chain' n') :
    chain = chain' ∧ n = n' := by
  induction h generalizing chain' with
  | here t =>
      cases h' with
      | here => exact ⟨rfl, rfl⟩
  | down hchild hdown ih =>
      cases h' with
      | down hchild' hdown' =>
          rw [hchild] at hchild'
          injection hchild' with hsame
          injection hsame with hkey hsame
          subst hkey hsame
          obtain ⟨rfl, rfl⟩ := ih hdown'
          exact ⟨rfl, rfl⟩

theorem DiffersAt.url_eq (h : t.DiffersAt place t') : t'.url = t.url := by
  cases h <;> rfl

theorem DiffersAt.versionOr_eq (h : t.DiffersAt place t') (standard : String) :
    t'.versionOr standard = t.versionOr standard := by
  cases h <;> rfl

/-- Rules have no part in where entries come from. -/
theorem DiffersAt.sites_eq (h : t.DiffersAt place t') : t'.sites = t.sites := by
  induction h with
  | here t visibility roles => rw [RouteTree.sites_eq, RouteTree.sites_eq t]
  | @down t child child' i key way hchild hbelow ih =>
      have hsame : (t.children.map fun c => c.2.sites).set i child'.sites =
          t.children.map fun c => c.2.sites := by
        obtain ⟨hi, -⟩ := List.getElem?_eq_some_iff.mp hchild
        refine List.ext_getElem? fun j => ?_
        by_cases hj : i = j
        · subst hj
          rw [List.getElem?_set_self (by rwa [List.length_map]), List.getElem?_map, hchild, ih]
          rfl
        · rw [List.getElem?_set_ne hj]
      rw [RouteTree.sites_eq, RouteTree.sites_eq t, List.map_set, hsame]

/-- The same places lead to nodes that are called the same, have the same verbs, and but for the
one have the same rules. -/
structure Matches (place way : List Nat) (chain : List (String × RouteTree κ)) (n : RouteTree κ)
    (chain' : List (String × RouteTree κ)) (n' : RouteTree κ) : Prop where
  keyPath : keyPath chain' = keyPath chain
  chainPath : chainPath chain' = chainPath chain
  methods : n'.methods = n.methods
  visibility : way ≠ place → n'.visibility = n.visibility
  roles : way ≠ place → n'.roles = n.roles

theorem Matches.refl (place way : List Nat) (chain : List (String × RouteTree κ))
    (n : RouteTree κ) : Matches place way chain n chain n :=
  ⟨rfl, rfl, rfl, fun _ => rfl, fun _ => rfl⟩

theorem Matches.down {child child' : RouteTree κ} (i : Nat) (key : String)
    (hurl : child'.url = child.url) (h : Matches place way chain n chain' n') :
    Matches (i :: place) (i :: way) ((key, child) :: chain) n ((key, child') :: chain') n' where
  keyPath := by rw [RouteTree.keyPath, RouteTree.keyPath, h.keyPath]
  chainPath := by rw [RouteTree.chainPath, RouteTree.chainPath, h.keyPath, hurl]
  methods := h.methods
  visibility hother := h.visibility fun hsame => hother (hsame ▸ rfl)
  roles hother := h.roles fun hsame => hother (hsame ▸ rfl)

theorem DiffersAt.descends (h : t.DiffersAt place t') (hdown : t.Descends way chain n) :
    ∃ chain' n', t'.Descends way chain' n' ∧ Matches place way chain n chain' n' := by
  induction h generalizing way chain n with
  | here t visibility roles =>
      cases hdown with
      | here =>
          refine ⟨[], _, .here _, rfl, rfl, rfl, fun hother => ?_, fun hother => ?_⟩
          · exact absurd rfl hother
          · exact absurd rfl hother
      | down hchild hdown => exact ⟨_, n, .down hchild hdown, .refl _ _ _ _⟩
  | @down t child child' i key place hchild hbelow ih =>
      cases hdown with
      | here => exact ⟨[], _, .here _, rfl, rfl, rfl, fun _ => rfl, fun _ => rfl⟩
      | @down _ c _ j key' way chain hchild' hdown =>
          by_cases hj : i = j
          · subst hj
            rw [hchild] at hchild'
            injection hchild' with hsame
            injection hsame with hkey hsame
            subst hkey hsame
            obtain ⟨chain', n', hdown', hmatches⟩ := ih hdown
            obtain ⟨hi, -⟩ := List.getElem?_eq_some_iff.mp hchild
            refine ⟨_, n', .down (List.getElem?_set_self hi) hdown', ?_⟩
            exact hmatches.down i key hbelow.url_eq
          · have hplace : (t.children.set i (key, child'))[j]? = some (key', c) := by
              rw [List.getElem?_set_ne hj, hchild']
            exact ⟨_, n, .down hplace hdown, .refl _ _ _ _⟩

end RouteTree

/-! ## Declarations that differ in the rules of one node -/

namespace Value

/-- Whether a key of a node is one of those for its rules. -/
def isRuleKey : Value κ → Bool
  | .str name => name == "access" || name == "roles"
  | _ => false

/-- `v.DiffersAt place v'`: the values are the same but for what is said about access and roles
at one node, to which the places lead. There are none if the node stands under a key whose text
comes again behind it, or below such a node. -/
inductive DiffersAt : Option (List Nat) → Value κ → Value κ → Prop
  | here {entries entries' : List (Value κ × Value κ)}
      (h : (entries.filter fun e => !e.1.isRuleKey) = entries'.filter fun e => !e.1.isRuleKey) :
      DiffersAt (some []) (.dict entries) (.dict entries')
  | parsed {t t' : RouteTree κ} {way : List Nat} (h : t.DiffersAt way t') :
      DiffersAt (some way) (.tree t) (.tree t')
  | down {before after earlier later : List (Value κ × Value κ)} {key child child' : Value κ}
      {place : Option (List Nat)} {i : Nat} (hfirst : ∀ e ∈ before, e.1 ≠ .str "children")
      (hlast : key.text ∉ later.map fun e => e.1.text)
      (hplace : (Value.dict (before ++ (.str "children",
        .dict (earlier ++ (key, child) :: later)) :: after)).childNodes[i]? =
          some (key.text, child))
      (hchild : DiffersAt place child child') :
      DiffersAt (place.map (i :: ·))
        (.dict (before ++ (.str "children", .dict (earlier ++ (key, child) :: later)) :: after))
        (.dict (before ++ (.str "children", .dict (earlier ++ (key, child') :: later)) :: after))
  | covered {before after earlier later : List (Value κ × Value κ)} {key child child' : Value κ}
      {place : Option (List Nat)} (hfirst : ∀ e ∈ before, e.1 ≠ .str "children")
      (hlast : key.text ∈ later.map fun e => e.1.text) (hchild : DiffersAt place child child') :
      DiffersAt Option.none
        (.dict (before ++ (.str "children", .dict (earlier ++ (key, child) :: later)) :: after))
        (.dict (before ++ (.str "children", .dict (earlier ++ (key, child') :: later)) :: after))

/-- Whether these are the rules that a node gives itself. -/
def HasRules (visibility : Visibility) (roles : RoleRule) : Value κ → Prop
  | .dict entries => Visibility.read (RouteTree.field "access" entries) = .ok visibility ∧
      RoleRule.read (RouteTree.field "roles" entries) = .ok roles
  | .tree t => t.visibility = visibility ∧ t.roles = roles
  | _ => False

end Value

namespace RouteTree

variable {t t' : RouteTree κ} {entries entries' before after : List (Value κ × Value κ)}
  {v v' : Value κ}

theorem hasRules_of_read (h : read v = .ok t) : v.HasRules t.visibility t.roles := by
  cases v with
  | dict entries =>
      obtain ⟨-, haccess, hroles, -⟩ := read_dict h
      exact ⟨haccess, hroles⟩
  | tree t' =>
      rw [read] at h
      injection h with h
      subst h
      exact ⟨rfl, rfl⟩
  | _ => simp [read] at h

theorem read_dict_mount (h : read (.dict entries) = .ok t) :
    readText .badUrl (field "url" entries) = .ok t.url ∧
      readText .badVersion (field "version" entries) = .ok t.version := by
  rw [read] at h
  obtain ⟨-, -, h⟩ := exists_of_bind_eq_ok h
  obtain ⟨url, hurl, h⟩ := exists_of_bind_eq_ok h
  obtain ⟨version, hversion, h⟩ := exists_of_bind_eq_ok h
  obtain ⟨methods, -, h⟩ := exists_of_bind_eq_ok h
  obtain ⟨children, -, h⟩ := exists_of_bind_eq_ok h
  rw [assemble] at h
  obtain ⟨visibility, -, h⟩ := exists_of_bind_eq_ok h
  obtain ⟨roles, -, h⟩ := exists_of_bind_eq_ok h
  injection h with h
  subst h
  exact ⟨hurl, hversion⟩

/-- What is read of a node but its rules and its children comes from three fields. -/
theorem eq_of_fields (hread : read (.dict entries) = .ok t)
    (hread' : read (.dict entries') = .ok t')
    (hfields : ∀ name ∈ ["url", "version", "methods"], field name entries = field name entries') :
    t'.url = t.url ∧ t'.version = t.version ∧ t'.methods = t.methods := by
  obtain ⟨hurl, hversion⟩ := read_dict_mount hread
  obtain ⟨hurl', hversion'⟩ := read_dict_mount hread'
  obtain ⟨hmethods, -⟩ := read_dict hread
  obtain ⟨hmethods', -⟩ := read_dict hread'
  rw [hfields "url" (by simp), hurl'] at hurl
  rw [hfields "version" (by simp), hversion'] at hversion
  rw [hfields "methods" (by simp), hmethods'] at hmethods
  exact ⟨Except.ok.inj hurl, Except.ok.inj hversion, Except.ok.inj hmethods⟩

theorem field_filter {name : String} (hname : name ≠ "access" ∧ name ≠ "roles")
    (entries : List (Value κ × Value κ)) :
    field name (entries.filter fun e => !e.1.isRuleKey) = field name entries := by
  induction entries with
  | nil => rfl
  | cons e entries ih =>
      obtain ⟨k, v⟩ := e
      rw [field_cons]
      by_cases hrule : k.isRuleKey = true
      · have hother : ¬ k.same (.str name) = true := by
          rw [Value.same_str]
          rintro rfl
          simp [Value.isRuleKey, hname] at hrule
        rw [List.filter_cons_of_neg (by simpa using hrule), ih, if_neg hother]
      · rw [List.filter_cons_of_pos (by simpa using hrule), field_cons, ih]

theorem field_children (hfirst : ∀ e ∈ before, e.1 ≠ .str "children") (w : Value κ) :
    field "children" (before ++ (.str "children", w) :: after) = w := by
  induction before with
  | nil =>
      rw [List.nil_append, field_cons, if_pos ((Value.same_str _ "children").mpr rfl)]
  | cons e before ih =>
      obtain ⟨k, v⟩ := e
      obtain ⟨hk, hrest⟩ := List.forall_mem_cons.mp hfirst
      rw [List.cons_append, field_cons, if_neg fun hsame => hk ((Value.same_str k _).mp hsame),
        ih hrest]

theorem field_beside {name : String} (hname : name ≠ "children") (w w' : Value κ) :
    field name (before ++ (.str "children", w) :: after) =
      field name (before ++ (.str "children", w') :: after) := by
  induction before with
  | nil =>
      have hother : ¬ (Value.str (κ := κ) "children").same (.str name) = true := by
        rw [Value.same_str]
        exact fun h => hname (Value.str.inj h).symm
      rw [List.nil_append, List.nil_append, field_cons, field_cons, if_neg hother, if_neg hother]
  | cons e before ih =>
      obtain ⟨k, v⟩ := e
      rw [List.cons_append, List.cons_append, field_cons, field_cons, ih]

theorem readChildren_insert {earlier later : List (Value κ × Value κ)} {key child : Value κ}
    {cs : List (String × RouteTree κ)}
    (h : readChildren (earlier ++ (key, child) :: later) = .ok cs) :
    ∃ es c ls, readChildren earlier = .ok es ∧ read child = .ok c ∧ readChildren later = .ok ls ∧
      cs = es ++ (key.text, c) :: ls := by
  induction earlier generalizing cs with
  | nil =>
      rw [List.nil_append, readChildren] at h
      obtain ⟨c, hc, h⟩ := exists_of_bind_eq_ok h
      obtain ⟨ls, hls, h⟩ := exists_of_bind_eq_ok h
      injection h with h
      exact ⟨[], c, ls, by rw [readChildren], hc, hls, h.symm⟩
  | cons e earlier ih =>
      obtain ⟨k, v⟩ := e
      rw [List.cons_append, readChildren] at h
      obtain ⟨first, hfirst, h⟩ := exists_of_bind_eq_ok h
      obtain ⟨rest, hrest, h⟩ := exists_of_bind_eq_ok h
      injection h with h
      obtain ⟨es, c, ls, hes, hc, hls, rfl⟩ := ih hrest
      refine ⟨(k.text, first) :: es, c, ls, ?_, hc, hls, h.symm⟩
      rw [readChildren, hfirst, hes]
      rfl

theorem keys_readChildren {entries : List (Value κ × Value κ)} {cs : List (String × RouteTree κ)}
    (h : readChildren entries = .ok cs) : cs.map (·.1) = entries.map fun e => e.1.text := by
  have hkeys : List.Forall₂ (fun p c => p.1 = c.1) (entries.map fun e => (e.1.text, e.2)) cs :=
    (parallel_readChildren h).imp fun _ _ hsame => hsame.1
  have hsame : List.Forall₂ (· = ·) (entries.map fun e => e.1.text) (cs.map (·.1)) := by
    rw [List.forall₂_map_right_iff, List.forall₂_map_left_iff]
    exact List.forall₂_map_left_iff.mp hkeys
  exact (List.forall₂_eq_eq_eq ▸ hsame : _ = _).symm

theorem children_of_read {entries : List (Value κ × Value κ)}
    (hfirst : ∀ e ∈ before, e.1 ≠ .str "children")
    (h : read (.dict (before ++ (.str "children", .dict entries) :: after)) = .ok t) :
    ∃ cs, readChildren entries = .ok cs ∧ t.children = Assoc.ofList cs := by
  obtain ⟨-, -, -, cs, hcs, hchildren⟩ := read_dict h
  rw [readChildrenField_eq, field_children hfirst] at hcs
  exact ⟨cs, hcs, hchildren⟩

/-- Beside a child that differs the same children are read. -/
theorem children_beside {earlier later : List (Value κ × Value κ)} {key child child' : Value κ}
    (hfirst : ∀ e ∈ before, e.1 ≠ .str "children")
    (hread : read (.dict (before ++
      (.str "children", .dict (earlier ++ (key, child) :: later)) :: after)) = .ok t)
    (hread' : read (.dict (before ++
      (.str "children", .dict (earlier ++ (key, child') :: later)) :: after)) = .ok t') :
    ∃ es c c' ls, read child = .ok c ∧ read child' = .ok c' ∧
      ls.map (·.1) = later.map (fun e => e.1.text) ∧
      t.children = Assoc.ofList (es ++ (key.text, c) :: ls) ∧
      t'.children = Assoc.ofList (es ++ (key.text, c') :: ls) := by
  obtain ⟨cs, hcs, hchildren⟩ := children_of_read hfirst hread
  obtain ⟨cs', hcs', hchildren'⟩ := children_of_read hfirst hread'
  obtain ⟨es, c, ls, hes, hc, hls, rfl⟩ := readChildren_insert hcs
  obtain ⟨es', c', ls', hes', hc', hls', rfl⟩ := readChildren_insert hcs'
  obtain rfl := Except.ok.inj (hes.symm.trans hes')
  obtain rfl := Except.ok.inj (hls.symm.trans hls')
  exact ⟨es, c, c', ls, hc, hc', keys_readChildren hls, hchildren, hchildren'⟩

theorem mk_eta (t : RouteTree κ) :
    ⟨t.url, t.version, t.methods, t.visibility, t.roles, t.children⟩ = t := by
  cases t
  rfl

/-- Nothing but the children is read of what stands under the key for them. -/
theorem eq_of_beside {w w' : Value κ}
    (hread : read (.dict (before ++ (.str "children", w) :: after)) = .ok t)
    (hread' : read (.dict (before ++ (.str "children", w') :: after)) = .ok t') :
    t' = { t with children := t'.children } := by
  have hfields : ∀ name ≠ "children", field name (before ++ (.str "children", w) :: after) =
      field name (before ++ (.str "children", w') :: after) :=
    fun name hname => field_beside hname w w'
  obtain ⟨hurl, hversion, hmethods⟩ := eq_of_fields hread hread' fun name hname => by
    refine hfields name ?_
    rintro rfl
    simp at hname
  obtain ⟨-, haccess, hroles, -⟩ := read_dict hread
  obtain ⟨-, haccess', hroles', -⟩ := read_dict hread'
  rw [hfields "access" (by decide), haccess'] at haccess
  rw [hfields "roles" (by decide), hroles'] at hroles
  obtain ⟨url, version, methods, visibility, roles, children⟩ := t
  obtain ⟨url', version', methods', visibility', roles', children'⟩ := t'
  injection haccess with haccess
  injection hroles with hroles
  subst hurl hversion hmethods haccess hroles
  rfl

theorem eq_of_filter
    (h : (entries.filter fun e => !e.1.isRuleKey) = entries'.filter fun e => !e.1.isRuleKey)
    (hread : read (.dict entries) = .ok t) (hread' : read (.dict entries') = .ok t') :
    t' = { t with visibility := t'.visibility, roles := t'.roles } := by
  have hfields : ∀ name, name ≠ "access" ∧ name ≠ "roles" →
      field name entries = field name entries' := by
    intro name hname
    rw [← field_filter hname entries, h, field_filter hname entries']
  obtain ⟨hurl, hversion, hmethods⟩ := eq_of_fields hread hread' fun name hname => by
    refine hfields name ⟨?_, ?_⟩
    · rintro rfl
      simp at hname
    · rintro rfl
      simp at hname
  obtain ⟨-, -, -, cs, hcs, hchildren⟩ := read_dict hread
  obtain ⟨-, -, -, cs', hcs', hchildren'⟩ := read_dict hread'
  rw [readChildrenField_eq, hfields "children" (by decide), ← readChildrenField_eq, hcs'] at hcs
  injection hcs with hcs
  rw [hcs, ← hchildren] at hchildren'
  obtain ⟨url, version, methods, visibility, roles, children⟩ := t
  obtain ⟨url', version', methods', visibility', roles', children'⟩ := t'
  subst hurl hversion hmethods hchildren'
  rfl

/-- What differs in the rules of one node is read as trees that do, or as the same tree. -/
theorem differsAt_of_read {place : Option (List Nat)} (h : v.DiffersAt place v')
    (hread : read v = .ok t) (hread' : read v' = .ok t') :
    (∃ way, place = some way ∧ t.DiffersAt way t') ∨ (place = none ∧ t' = t) := by
  induction h generalizing t t' with
  | here h =>
      refine Or.inl ⟨[], rfl, ?_⟩
      rw [eq_of_filter h hread hread']
      exact .here t _ _
  | parsed h =>
      rw [read] at hread hread'
      injection hread with hread
      injection hread' with hread'
      subst hread hread'
      exact Or.inl ⟨_, rfl, h⟩
  | @down before after earlier later key child child' place i hfirst hlast hplace hchild ih =>
      obtain ⟨es, c, c', ls, hc, hc', hkeys, hchildren, hchildren'⟩ :=
        children_beside hfirst hread hread'
      have hnode : t.children[i]? = some (key.text, c) := by
        obtain ⟨⟨k, c₀⟩, hplace', hkey, hc₀⟩ :=
          exists_getElem?_of_forall₂ (List.Forall₂.flip (parallel_childNodes hread)) hplace
        obtain rfl : k = key.text := hkey.symm
        rw [hplace', Except.ok.inj (hc.symm.trans hc₀)]
      have hset : t'.children = t.children.set i (key.text, c') := by
        rw [hchildren] at hnode ⊢
        rw [hchildren']
        exact Assoc.ofList_set (hkeys ▸ hlast) hnode
      rw [eq_of_beside hread hread', hset]
      rcases ih hc hc' with ⟨way, rfl, hdiffers⟩ | ⟨rfl, rfl⟩
      · exact Or.inl ⟨i :: way, rfl, .down hnode hdiffers⟩
      · refine Or.inr ⟨rfl, ?_⟩
        obtain ⟨hi, hget⟩ := List.getElem?_eq_some_iff.mp hnode
        rw [← hget, List.set_getElem_self, mk_eta]
  | covered hfirst hlast hchild ih =>
      obtain ⟨es, c, c', ls, hc, hc', hkeys, hchildren, hchildren'⟩ :=
        children_beside hfirst hread hread'
      refine Or.inr ⟨rfl, ?_⟩
      have hsame : t'.children = t.children := by
        rw [hchildren, hchildren']
        exact Assoc.ofList_covered (hkeys ▸ hlast)
      rw [eq_of_beside hread hread', hsame, mk_eta]

end RouteTree

/-! ## Tables -/

theorem exists_insert_of_forall₂ {α β : Type} {R : α → β → Prop} {xs ys : List α} {a : α}
    {zs : List β} (h : List.Forall₂ R (xs ++ a :: ys) zs) :
    ∃ xs' b ys', zs = xs' ++ b :: ys' ∧ List.Forall₂ R xs xs' ∧ R a b ∧ List.Forall₂ R ys ys' := by
  induction xs generalizing zs with
  | nil =>
      obtain ⟨b, ys', hab, hys, rfl⟩ := List.forall₂_cons_left_iff.mp h
      exact ⟨[], b, ys', rfl, .nil, hab, hys⟩
  | cons x xs ih =>
      obtain ⟨b, rest, hxb, hrest, rfl⟩ := List.forall₂_cons_left_iff.mp h
      obtain ⟨xs', b', ys', rfl, hxs, hab, hys⟩ := ih hrest
      exact ⟨b :: xs', b', ys', rfl, .cons hxb hxs, hab, hys⟩

/-- Whether entries differ at most in the policy. -/
structure RouteEntry.Alike (e e' : RouteEntry κ) : Prop where
  path : e'.path = e.path
  verb : e'.verb = e.verb
  handler : e'.handler = e.handler

/-- Whether the node to which places lead gives itself the rules that settle a policy. -/
def Value.Settles (v : Value κ) (way : List Nat) (verb : String) (policy : Policy) : Prop :=
  ∃ node visibility roles, v.Descends way node ∧ node.HasRules visibility roles ∧
    policy = Policy.resolve visibility roles verb

namespace Origin

variable {opts : CompileOptions} {trees ahead behind : List (RouteTree κ)} {t t' : RouteTree κ}
  {o : Origin} {e e' : RouteEntry κ}

theorem Declares.eq (h : Declares opts trees o e) (h' : Declares opts trees o e') : e = e' := by
  cases h with
  | intro hroot hurl hdown hverb =>
      cases h' with
      | intro hroot' hurl' hdown' hverb' =>
          obtain rfl := Option.some.inj (hroot.symm.trans hroot')
          obtain rfl := Option.some.inj (hurl.symm.trans hurl')
          obtain ⟨rfl, rfl⟩ := hdown.eq hdown'
          injection hverb.symm.trans hverb' with hsame
          injection hsame with hverb hhandler
          subst hverb hhandler
          rfl

/-- The policy of an entry is settled by the rules of the node that declares it. -/
theorem Declares.settles {roots : List (Value κ)} {v : Value κ} {i : Nat} {way : List Nat}
    (hread : List.Forall₂ (fun v t => RouteTree.read v = .ok t) roots trees)
    (hroot : roots[i]? = some v) (hway : o.way = i :: way) (h : Declares opts trees o e) :
    v.Settles way e.verb e.policy := by
  cases h with
  | intro htree hurl hdown hverb =>
      injection hway with hi hway
      subst hi hway
      obtain ⟨w, hw, hwread⟩ := exists_getElem?_of_forall₂ hread htree
      obtain rfl := Option.some.inj (hroot.symm.trans hw)
      obtain ⟨node, hnode, hnodeRead⟩ := RouteTree.exists_descends hdown hwread
      exact ⟨node, _, _, hnode, RouteTree.hasRules_of_read hnodeRead, rfl⟩

/-- Trees that differ in the rules of one node declare the same at every origin, but for the
policies of that node. -/
theorem Declares.of_differsAt {place : List Nat} (hdiffers : t.DiffersAt place t')
    (h : Declares opts (ahead ++ t :: behind) o e) :
    ∃ e', Declares opts (ahead ++ t' :: behind) o e' ∧ e.Alike e' ∧
      (o.way ≠ ahead.length :: place → e'.policy = e.policy) := by
  cases h with
  | @intro root node i j url verb handler way chain hroot hurl hdown hverb =>
      by_cases hi : i = ahead.length
      · subst hi
        rw [List.getElem?_append_right (Nat.le_refl _), Nat.sub_self] at hroot
        obtain rfl : t = root := Option.some.inj hroot
        obtain ⟨chain', n', hdown', hmatches⟩ := hdiffers.descends hdown
        have hroot' : (ahead ++ t' :: behind)[ahead.length]? = some t' := by
          rw [List.getElem?_append_right (Nat.le_refl _), Nat.sub_self]
          rfl
        rw [← hdiffers.url_eq] at hurl
        rw [← hmatches.methods] at hverb
        refine ⟨_, .intro hroot' hurl hdown' hverb, ⟨?_, rfl, rfl⟩, fun hother => ?_⟩
        · rw [hdiffers.versionOr_eq, hmatches.chainPath]
        · have hway : way ≠ place := fun hsame => hother (hsame ▸ rfl)
          rw [hmatches.visibility hway, hmatches.roles hway]
      · have hroot' : (ahead ++ t' :: behind)[i]? = some root := by
          rw [← hroot, List.getElem?_append, List.getElem?_append]
          by_cases hlt : i < ahead.length
          · rw [if_pos hlt, if_pos hlt]
          · obtain ⟨k, hk⟩ : ∃ k, i - ahead.length = k + 1 := ⟨i - ahead.length - 1, by omega⟩
            rw [if_neg hlt, if_neg hlt, hk, List.getElem?_cons_succ, List.getElem?_cons_succ]
        exact ⟨_, .intro hroot' hurl hdown hverb, ⟨rfl, rfl, rfl⟩, fun _ => rfl⟩

end Origin

namespace RouteTable

theorem rootSites_eq {t t' : RouteTree κ} {place : List Nat} (h : t.DiffersAt place t') :
    rootSites t' = rootSites t := by
  rw [rootSites, rootSites, h.url_eq, h.sites_eq]

/-- If declarations differ only in what one node says about access and roles, their tables have
the same entries at the same places but for the policies of that node, and those are settled by
what it says itself, each time. -/
theorem policies_local {base version : String} {ahead behind : List (Value κ)} {v v' : Value κ}
    {place : Option (List Nat)} {table table' : RouteTable κ} (hdiffers : v.DiffersAt place v')
    (hcompile : (compile ⟨base, version, false⟩ (.list (ahead ++ v :: behind))).result = .ok table)
    (hcompile' : (compile ⟨base, version, false⟩ (.list (ahead ++ v' :: behind))).result =
      .ok table') :
    table'.length = table.length ∧ ∃ trees trees' origins,
      List.Forall₂ (fun v t => RouteTree.read v = .ok t) (ahead ++ v :: behind) trees ∧
      List.Forall₂ (fun v t => RouteTree.read v = .ok t) (ahead ++ v' :: behind) trees' ∧
      LaidOut ⟨base, version, false⟩ trees origins table ∧
      LaidOut ⟨base, version, false⟩ trees' origins table' ∧
      ∀ (k : Nat) (o : Origin) (e e' : RouteEntry κ), origins[k]? = some o →
        table[k]? = some e → table'[k]? = some e' → e.Alike e' ∧
        (∀ way, place = some way → o.way = ahead.length :: way →
          v.Settles way e.verb e.policy ∧ v'.Settles way e'.verb e'.policy) ∧
        ((∀ way, place = some way → o.way ≠ ahead.length :: way) → e'.policy = e.policy) := by
  have hunique : Relator.RightUnique fun (v : Value κ) t => RouteTree.read v = .ok t := by
    intro v t t' h h'
    exact Except.ok.inj (h.symm.trans h')
  obtain ⟨trees, hread, hlaid⟩ := compile_laidOut_sites hcompile
  obtain ⟨trees', hread', hlaid'⟩ := compile_laidOut_sites hcompile'
  obtain ⟨ts, t, us, rfl, hts, ht, hus⟩ := exists_insert_of_forall₂ hread
  obtain ⟨ts', t', us', rfl, hts', ht', hus'⟩ := exists_insert_of_forall₂ hread'
  obtain rfl := List.right_unique_forall₂' hunique hts hts'
  obtain rfl := List.right_unique_forall₂' hunique hus hus'
  have htrees := RouteTree.differsAt_of_read hdiffers ht ht'
  have hsites : rootSites t' = rootSites t := by
    rcases htrees with ⟨way, -, h⟩ | ⟨-, h⟩
    · exact rootSites_eq h
    · rw [h]
  rw [List.map_append, List.map_cons] at hlaid
  rw [List.map_append, List.map_cons, hsites] at hlaid'
  have hlength : table'.length = table.length :=
    hlaid'.entries.length_eq.symm.trans hlaid.entries.length_eq
  refine ⟨hlength, _, _, _, hread, hread', hlaid, hlaid', ?_⟩
  intro k o e e' ho he he'
  obtain ⟨o₁, ho₁, hdeclares⟩ := exists_getElem?_of_forall₂ hlaid.entries he
  obtain ⟨o₂, ho₂, hdeclares'⟩ := exists_getElem?_of_forall₂ hlaid'.entries he'
  obtain rfl := Option.some.inj (ho.symm.trans ho₁)
  obtain rfl := Option.some.inj (ho.symm.trans ho₂)
  have hroot : ∀ w : Value κ, (ahead ++ w :: behind)[ahead.length]? = some w := by
    intro w
    rw [List.getElem?_append_right (Nat.le_refl _), Nat.sub_self]
    rfl
  refine and_left_comm.mp ⟨fun way _ hway => ?_, ?_⟩
  · exact ⟨hdeclares.settles hread (hroot v) hway, hdeclares'.settles hread' (hroot v') hway⟩
  rcases htrees with ⟨way, rfl, h⟩ | ⟨-, rfl⟩
  · obtain ⟨e₁, hdeclares₁, halike, hpolicy⟩ := hdeclares.of_differsAt h
    obtain rfl := hdeclares₁.eq hdeclares'
    refine ⟨halike, fun hother => hpolicy ?_⟩
    rw [← hts.length_eq]
    exact hother way rfl
  · obtain rfl := hdeclares.eq hdeclares'
    exact ⟨⟨rfl, rfl, rfl⟩, fun _ => rfl⟩

/-! A shop with a list of its own and a cart below it, whose access is left open here. -/

def cart (access : Value String) : Value String :=
  .dict [(.str "methods", .dict [(.str "get", .callable "cart")]), (.str "access", access)]

def shopFront : List (Value String × Value String) :=
  [(.str "url", .str "/shop"), (.str "methods", .dict [(.str "get", .callable "list")])]

def shop (access : Value String) : Value String :=
  .dict (shopFront ++ [(.str "children", .dict [(.str "cart", cart access)])])

def shopTable (policy : Policy) : RouteTable String :=
  [⟨"/api/v1/shop", "get", ⟨false, none⟩, "list"⟩, ⟨"/api/v1/shop/cart", "get", policy, "cart"⟩]

theorem compile_shop {access : Value String} {visibility : Visibility}
    (h : Visibility.read access = .ok visibility) :
    (compile ⟨"api", "v1", false⟩ (.list [shop access])).result =
      .ok (shopTable (Policy.resolve visibility .anyone "get")) := by
  have hcart : RouteTree.read (cart access) =
      .ok ⟨none, none, [("get", "cart")], visibility, .anyone, []⟩ := by
    simp only [cart, RouteTree.read, RouteTree.readChildrenField_eq, RouteTree.field_cons,
      Value.same_str_str, RouteTree.assemble]
    show (Visibility.read access >>= fun visibility => Except.ok
      (⟨none, none, [("get", "cart")], visibility, .anyone, []⟩ : RouteTree String)) = _
    rw [h]
    rfl
  have hchild : RouteTree.readChildren [(.str "cart", cart access)] =
      .ok [("cart", ⟨none, none, [("get", "cart")], visibility, .anyone, []⟩)] := by
    rw [RouteTree.readChildren, hcart]
    rfl
  have hshop : RouteTree.read (shop access) = .ok ⟨some "/shop", none, [("get", "list")],
      .identified, .anyone,
      [("cart", ⟨none, none, [("get", "cart")], visibility, .anyone, []⟩)]⟩ := by
    simp only [shop, shopFront, List.cons_append, List.nil_append, RouteTree.read,
      RouteTree.readChildrenField_eq, RouteTree.field_cons, Value.same_str_str,
      RouteTree.assemble]
    show (RouteTree.readChildren [(.str "cart", cart access)] >>= fun children => Except.ok
      (⟨some "/shop", none, [("get", "list")], .identified, .anyone, Assoc.ofList children⟩ :
        RouteTree String)) = _
    rw [hchild]
    rfl
  simp only [compile, Value.items?, compileRoots, runRoots, runRoot, hshop]
  rfl

theorem cart_local :
    (shop (.str "public")).Settles [0] "get" ⟨true, none⟩ ∧
      (shop .none).Settles [0] "get" ⟨false, none⟩ := by
  have hdiffers : (shop (.str "public")).DiffersAt (some [0]) (shop .none) := by
    have hcart : (cart (.str "public")).DiffersAt (some []) (cart .none) := .here rfl
    have hfirst : ∀ e ∈ shopFront, e.1 ≠ .str "children" := by simp [shopFront]
    have hlast : (Value.str (κ := String) "cart").text ∉
        ([] : List (Value String × Value String)).map fun e => e.1.text := by simp
    have hplace : (Value.dict (shopFront ++ (.str "children",
        .dict ([] ++ (.str "cart", cart (.str "public")) :: [])) :: [])).childNodes[0]? =
          some ((Value.str (κ := String) "cart").text, cart (.str "public")) := by
      rw [Value.childNodes, RouteTree.field_children hfirst]
      rfl
    exact .down hfirst hlast hplace hcart
  have hopen : (compile ⟨"api", "v1", false⟩ (.list ([] ++ shop (.str "public") :: []))).result =
      .ok (shopTable ⟨true, none⟩) :=
        compile_shop (rfl : Visibility.read (.str "public") = .ok .everyone)
  have hclosed : (compile ⟨"api", "v1", false⟩ (.list ([] ++ shop .none :: []))).result =
      .ok (shopTable ⟨false, none⟩) :=
        compile_shop (rfl : Visibility.read .none = .ok .identified)
  obtain ⟨-, trees, trees', origins, -, -, hlaid, -, hentries⟩ :=
    policies_local hdiffers hopen hclosed
  obtain ⟨o, ho, -⟩ := exists_getElem?_of_forall₂ hlaid.entries
    (rfl : (shopTable ⟨true, none⟩)[1]? = some _)
  obtain ⟨-, hown, hother⟩ := hentries 1 o _ _ ho rfl rfl
  by_cases hway : o.way = [0, 0]
  · exact hown [0] rfl hway
  · have hsame := hother fun way hplace hat => by
      injection hplace with hplace
      exact hway (hplace ▸ hat)
    cases hsame

end RouteTable

end Gatehouse
