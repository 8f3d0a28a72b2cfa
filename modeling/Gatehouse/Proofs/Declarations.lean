import Gatehouse.Outcome
import Gatehouse.Proofs.Origins
import Gatehouse.Proofs.SmallLetters
import Mathlib.Data.Option.Basic

/-!
# What a declaration says

A node of a route tree is declared by a mapping, and reading it spells its keys in small
letters, drops repetitions and settles which of several equal keys counts. What the
mapping says can be told without all that: below it are the values under the key for
children, a verb belongs to the last key that spells it, a route is open if the rule
for access is the one word or has a key that spells the verb, and a role is admitted if
the rule for roles has none for the verb or lists it. `Value.childNodes`, `Value.Offers`,
`Value.Opens` and `Value.Admits` are these four readings. A node that had been read before it
was handed over stands for itself.

`DeclaredAt.describes` carries them over to the table: the node at which an entry is declared
offers its verb and its handler, and the policy of the entry is what the node says about
access and roles. On the way every list that is read is held against the list it is read
from, pair by pair, since both keep their order.
-/

namespace Gatehouse

variable {κ : Type}

/-! ## Two mappings side by side -/

theorem exists_getElem?_of_forall₂ {α β : Type} {R : α → β → Prop} {xs : List α} {ys : List β}
    (h : List.Forall₂ R xs ys) {i : Nat} {y : β} (hy : ys[i]? = some y) :
    ∃ x, xs[i]? = some x ∧ R x y := by
  obtain ⟨hi, rfl⟩ := List.getElem?_eq_some_iff.mp hy
  have hi' : i < xs.length := by
    rw [h.length_eq]
    exact hi
  exact ⟨xs[i], List.getElem?_eq_getElem hi', (List.forall₂_iff_get.mp h).2 i hi' hi⟩

namespace Assoc

variable {α β γ : Type} {R : β → γ → Prop}

/-- Two lists of pairs with the same keys at the same places, and with values that
belong together. -/
abbrev Parallel (R : β → γ → Prop) (ps : List (α × β)) (qs : List (α × γ)) : Prop :=
  List.Forall₂ (fun p q => p.1 = q.1 ∧ R p.2 q.2) ps qs

/-- A reader that takes the pairs one after the other keeps them side by side. -/
theorem parallel_of_reader {δ ε : Type} {readAll : List (δ × β) → Except ε (List (α × γ))}
    {key : δ → α} (hnil : readAll [] = .ok [])
    (hcons : ∀ k v rest qs, readAll ((k, v) :: rest) = .ok qs →
      ∃ w others, R v w ∧ readAll rest = .ok others ∧ qs = (key k, w) :: others)
    {entries : List (δ × β)} {qs : List (α × γ)} (h : readAll entries = .ok qs) :
    Parallel R (entries.map fun p => (key p.1, p.2)) qs := by
  induction entries generalizing qs with
  | nil =>
      rw [hnil] at h
      injection h with h
      subst h
      exact List.Forall₂.nil
  | cons entry rest ih =>
      obtain ⟨k, v⟩ := entry
      obtain ⟨w, others, hvw, hothers, rfl⟩ := hcons k v rest qs h
      exact List.Forall₂.cons ⟨rfl, hvw⟩ (ih hothers)

/-- A reader that takes pairs one after the other reads whatever lies side by side with what it
should read. -/
theorem reader_of_parallel {δ ε : Type} {readAll : List (δ × β) → Except ε (List (α × γ))}
    {key : δ → α} (hnil : readAll [] = .ok [])
    (hcons : ∀ k v rest w others, R v w → readAll rest = .ok others →
      readAll ((k, v) :: rest) = .ok ((key k, w) :: others))
    {entries : List (δ × β)} {qs : List (α × γ)}
    (h : Parallel R (entries.map fun p => (key p.1, p.2)) qs) : readAll entries = .ok qs := by
  induction entries generalizing qs with
  | nil =>
      cases h
      exact hnil
  | cons entry rest ih =>
      obtain ⟨k, v⟩ := entry
      cases h with
      | @cons _ q _ others hpair hrest =>
          obtain ⟨verb, w⟩ := q
          obtain ⟨rfl, hvw⟩ := hpair
          exact hcons k v rest w others hvw (ih hrest)

variable {ps : List (α × β)} {qs : List (α × γ)} [DecidableEq α]

theorem Parallel.put {key : α} {v : β} {w : γ} (hvw : R v w) (h : Parallel R ps qs) :
    Parallel R (put key v ps) (put key w qs) := by
  induction h with
  | nil => exact List.Forall₂.cons ⟨rfl, hvw⟩ List.Forall₂.nil
  | @cons p q ps qs hpq hrest ih =>
      obtain ⟨k, v'⟩ := p
      obtain ⟨k', w'⟩ := q
      obtain ⟨rfl, hvw'⟩ := hpq
      rw [Assoc.put, Assoc.put]
      split
      · exact List.Forall₂.cons ⟨rfl, hvw⟩ hrest
      · exact List.Forall₂.cons ⟨rfl, hvw'⟩ ih

theorem Parallel.ofList (h : Parallel R ps qs) : Parallel R (ofList ps) (ofList qs) := by
  suffices hfold : ∀ acc acc', Parallel R acc acc' →
      Parallel R (ps.foldl (fun acc p => Assoc.put p.1 p.2 acc) acc)
        (qs.foldl (fun acc p => Assoc.put p.1 p.2 acc) acc') from
    hfold [] [] List.Forall₂.nil
  induction h with
  | nil => exact fun _ _ hacc => hacc
  | @cons p q ps qs hpq hrest ih =>
      intro acc acc' hacc
      obtain ⟨hkey, hvalue⟩ := hpq
      rw [List.foldl_cons, List.foldl_cons, hkey]
      exact ih _ _ (hacc.put hvalue)

theorem Parallel.last? (key : α) (h : Parallel R ps qs) :
    Option.Rel R (last? key ps) (last? key qs) := by
  rw [Assoc.last?, Assoc.last?]
  have hback : Parallel R ps.reverse qs.reverse := List.rel_reverse h
  generalize ps.reverse = back, qs.reverse = back' at hback
  induction hback with
  | nil => exact Option.Rel.none
  | @cons p q ps qs hpq hrest ih =>
      obtain ⟨hkey, hvalue⟩ := hpq
      rw [List.find?_cons, List.find?_cons, hkey]
      split
      · exact Option.Rel.some hvalue
      · exact ih

end Assoc

/-! ## Four readings of a value -/

namespace Value

/-- The value under the last key that spells a verb. -/
def lastFor (verb : String) (entries : List (Value κ × Value κ)) : Option (Value κ) :=
  Assoc.last? verb (entries.map fun p => (p.1.verb, p.2))

/-- The nodes right below a node, under the texts of their keys. -/
def childNodes : Value κ → List (String × Value κ)
  | .dict entries =>
    match RouteTree.field "children" entries with
    | .dict children => Assoc.ofList (children.map fun p => (p.1.text, p.2))
    | _ => []
  | .tree t => t.children.map fun c => (c.1, .tree c.2)
  | _ => []

/-- `v.Descends way node`: the places `way` lead from `v` down to `node`. -/
inductive Descends : Value κ → List Nat → Value κ → Prop
  | here (v : Value κ) : Descends v [] v
  | down {v child node : Value κ} {i : Nat} {key : String} {way : List Nat}
      (hchild : v.childNodes[i]? = some (key, child)) (hdown : Descends child way node) :
      Descends v (i :: way) node

theorem Descends.eq {v node node' : Value κ} {way : List Nat} (h : v.Descends way node)
    (h' : v.Descends way node') : node = node' := by
  induction h with
  | here v =>
      cases h' with
      | here => rfl
  | down hchild hdown ih =>
      cases h' with
      | down hchild' hdown' =>
          rw [hchild] at hchild'
          injection hchild' with hsame
          injection hsame with _ hsame
          subst hsame
          exact ih hdown'

/-- Whether the methods of a node have a handler for a verb. -/
def HasHandler (verb : String) (handler : κ) : Value κ → Prop
  | .dict methods => lastFor verb methods = some (.callable handler)
  | _ => False

/-- Whether a rule for access opens a verb to everyone. -/
def OpensVerb (verb : String) : Value κ → Prop
  | .str word => word = "public"
  | .dict rules => ∃ rule ∈ rules, rule.1.verb = verb
  | _ => False

/-- Whether a role is among the items of a value. -/
def ListsRole (role : Json) (v : Value κ) : Prop :=
  ∃ items, v.items? = some items ∧ ∃ item ∈ items, role = .str item.text

/-- Whether a rule for roles admits a role for a verb. -/
def AdmitsRole (verb : String) (role : Json) : Value κ → Prop
  | .none => True
  | .dict rules => ∀ roles, lastFor verb rules = some roles → roles.ListsRole role
  | roles => roles.ListsRole role

/-- Whether a node has a handler for a verb. -/
def Offers (verb : String) (handler : κ) : Value κ → Prop
  | .dict entries => (RouteTree.field "methods" entries).HasHandler verb handler
  | .tree t => (verb, handler) ∈ t.methods
  | _ => False

/-- Whether a node opens a verb to everyone. -/
def Opens (verb : String) : Value κ → Prop
  | .dict entries => (RouteTree.field "access" entries).OpensVerb verb
  | .tree t => t.visibility.isOpen (Text.lower verb) = true
  | _ => False

/-- Whether a node admits a role for a verb that it does not open to everyone. -/
def Admits (verb : String) (role : Json) : Value κ → Prop
  | .dict entries => (RouteTree.field "roles" entries).AdmitsRole verb role
  | .tree t =>
    ∀ roles, t.roles.accepted (Text.lower verb) = some roles → ∃ name ∈ roles, role = .str name
  | _ => False

end Value

/-- Whether a policy lets identities of this role pass. -/
def Policy.Admits (p : Policy) (role : Json) : Prop :=
  ∀ roles, p.roles = some roles → ∃ name ∈ roles, role = .str name

/-! ## Reading -/

namespace RouteTree

theorem field_cons (name : String) (k v : Value κ) (rest : List (Value κ × Value κ)) :
    field name ((k, v) :: rest) = if k.same (.str name) then v else field name rest := by
  rw [field, Value.entry?]
  split <;> rfl

theorem readChildrenField_eq (entries : List (Value κ × Value κ)) :
    readChildrenField entries =
      match field "children" entries with
      | .dict children => readChildren children
      | v => if v.isTruthy then .error (.noPairs v.typeName) else .ok [] := by
  induction entries with
  | nil => rw [readChildrenField]; rfl
  | cons entry rest ih =>
      obtain ⟨k, v⟩ := entry
      rw [field_cons]
      by_cases hkey : k = .str "children"
      · rw [if_pos ((Value.same_str k "children").mpr hkey), hkey]
        cases v <;> rw [readChildrenField] <;> simp
      · rw [if_neg fun hsame => hkey ((Value.same_str k "children").mp hsame), ← ih,
          readChildrenField.eq_def]
        split
        · next heq => cases heq
        · next heq => injection heq with hhead; injection hhead with hk; exact absurd hk hkey
        · next heq => injection heq with hhead; injection hhead with hk; exact absurd hk hkey
        · next heq => injection heq with _ htail; rw [htail]

theorem readChildrenField_cons (k v : Value κ) (rest : List (Value κ × Value κ)) :
    readChildrenField ((k, v) :: rest) =
      if k.same (.str "children") then readChildrenField [(k, v)] else readChildrenField rest := by
  rw [readChildrenField_eq, readChildrenField_eq, readChildrenField_eq, field_cons, field_cons]
  by_cases hkey : k.same (.str "children") = true
  · rw [if_pos hkey, if_pos hkey, if_pos hkey]
  · rw [if_neg hkey, if_neg hkey]

theorem read_dict {entries : List (Value κ × Value κ)} {t : RouteTree κ}
    (h : read (.dict entries) = .ok t) :
    readMethods (field "methods" entries) = .ok t.methods ∧
      Visibility.read (field "access" entries) = .ok t.visibility ∧
      RoleRule.read (field "roles" entries) = .ok t.roles ∧
      ∃ children, readChildrenField entries = .ok children ∧
        t.children = Assoc.ofList children := by
  rw [read] at h
  obtain ⟨-, -, h⟩ := exists_of_bind_eq_ok h
  obtain ⟨url, -, h⟩ := exists_of_bind_eq_ok h
  obtain ⟨version, -, h⟩ := exists_of_bind_eq_ok h
  obtain ⟨methods, hmethods, h⟩ := exists_of_bind_eq_ok h
  obtain ⟨children, hchildren, h⟩ := exists_of_bind_eq_ok h
  rw [assemble] at h
  obtain ⟨visibility, hvisibility, h⟩ := exists_of_bind_eq_ok h
  obtain ⟨roles, hroles, h⟩ := exists_of_bind_eq_ok h
  injection h with h
  subst h
  exact ⟨hmethods, hvisibility, hroles, children, hchildren, rfl⟩

theorem parallel_readChildren {entries : List (Value κ × Value κ)}
    {children : List (String × RouteTree κ)} (h : readChildren entries = .ok children) :
    Assoc.Parallel (fun v t => read v = .ok t) (entries.map fun p => (p.1.text, p.2))
      children := by
  refine Assoc.parallel_of_reader (by rw [readChildren]) ?_ h
  intro key v rest children h
  rw [readChildren] at h
  obtain ⟨child, hchild, h⟩ := exists_of_bind_eq_ok h
  obtain ⟨others, hothers, h⟩ := exists_of_bind_eq_ok h
  injection h with h
  exact ⟨child, others, hchild, hothers, h.symm⟩

theorem parallel_childNodes {v : Value κ} {t : RouteTree κ} (h : read v = .ok t) :
    Assoc.Parallel (fun w c => read w = .ok c) v.childNodes t.children := by
  cases v with
  | tree t' =>
      rw [read] at h
      injection h with h
      subst h
      rw [Value.childNodes, Assoc.Parallel, List.forall₂_map_left_iff, List.forall₂_same]
      exact fun c _ => ⟨rfl, by rw [read]⟩
  | dict entries =>
      obtain ⟨-, -, -, children, hchildren, hofList⟩ := read_dict h
      rw [readChildrenField_eq] at hchildren
      rw [Value.childNodes, hofList]
      split at hchildren
      · exact (parallel_readChildren hchildren).ofList
      · split at hchildren
        · cases hchildren
        · injection hchildren with hchildren
          subst hchildren
          exact List.Forall₂.nil
  | _ => simp [read] at h

/-- Whatever lies below a node that is read is declared at the same places. -/
theorem exists_descends {t n : RouteTree κ} {way : List Nat}
    {chain : List (String × RouteTree κ)} (hdown : t.Descends way chain n) {v : Value κ}
    (hread : read v = .ok t) : ∃ node, v.Descends way node ∧ read node = .ok n := by
  induction hdown generalizing v with
  | here t => exact ⟨v, Value.Descends.here v, hread⟩
  | @down t child n i key way chain hchild hdown ih =>
      obtain ⟨⟨_, w⟩, hplace, -, hw⟩ :=
        exists_getElem?_of_forall₂ (parallel_childNodes hread) hchild
      obtain ⟨node, hnode, hnodeRead⟩ := ih hw
      exact ⟨node, Value.Descends.down hplace hnode, hnodeRead⟩

end RouteTree

/-! ## Verbs, access and roles

Verbs are compared in small letters on both sides, so a verb that some key spells is not
changed when the policy is settled for it. Of several keys that spell one verb the last
one counts, for handlers as for roles, because putting a value under a key that is there
already replaces the value. -/

theorem Value.lower_of_lastFor {verb : String} {entries : List (Value κ × Value κ)}
    {v : Value κ} (h : lastFor verb entries = some v) : Text.lower verb = verb := by
  rw [lastFor, Assoc.last?, Option.map_eq_some_iff] at h
  obtain ⟨p, hfind, -⟩ := h
  have hkey := List.find?_some hfind
  rw [decide_eq_true_eq] at hkey
  have hmem := List.mem_reverse.mp (List.mem_of_find?_eq_some hfind)
  obtain ⟨entry, -, rfl⟩ := List.mem_map.mp hmem
  rw [← hkey, Value.verb, Text.lower_lower]

theorem RouteTree.parallel_readHandlers {entries : List (Value κ × Value κ)}
    {handlers : List (String × κ)} (h : readHandlers entries = .ok handlers) :
    Assoc.Parallel (fun v f => v = .callable f) (entries.map fun p => (p.1.verb, p.2))
      handlers := by
  refine Assoc.parallel_of_reader (by rw [readHandlers]) ?_ h
  intro key v rest handlers h
  cases v with
  | callable f =>
      rw [readHandlers] at h
      obtain ⟨others, hothers, h⟩ := exists_of_map_eq_ok h
      exact ⟨f, others, rfl, hothers, h.symm⟩
  | _ => cases h

theorem RouteTree.readHandlers_of_parallel {entries : List (Value κ × Value κ)}
    {handlers : List (String × κ)}
    (h : Assoc.Parallel (fun v f => v = .callable f) (entries.map fun p => (p.1.verb, p.2))
      handlers) : readHandlers entries = .ok handlers := by
  refine Assoc.reader_of_parallel (by rw [readHandlers]) ?_ h
  rintro key v rest f others rfl hothers
  rw [readHandlers, hothers]
  rfl

theorem RouteTree.hasHandler_of_readMethods {v : Value κ} {methods : List (String × κ)}
    (h : readMethods v = .ok methods) {verb : String} {handler : κ}
    (hmem : (verb, handler) ∈ methods) : v.HasHandler verb handler := by
  rw [readMethods.eq_def] at h
  split at h
  · next entries =>
      obtain ⟨handlers, hhandlers, rfl⟩ := exists_of_map_eq_ok h
      have hlast : Assoc.last? verb handlers = some handler := by
        rw [← Assoc.get?_ofList]
        exact Assoc.get?_of_mem (Assoc.nodup_keys_ofList handlers) hmem
      have hrel := (parallel_readHandlers hhandlers).last? verb
      rw [hlast] at hrel
      rw [Value.HasHandler, Value.lastFor]
      generalize Assoc.last? verb (entries.map fun p => (p.1.verb, p.2)) = declared at hrel ⊢
      cases hrel with
      | some hcallable => rw [hcallable]
  · split at h
    · cases h
    · injection h with h
      subst h
      cases hmem

theorem Value.lower_of_hasHandler {v : Value κ} {verb : String} {handler : κ}
    (h : v.HasHandler verb handler) : Text.lower verb = verb := by
  cases v with
  | dict entries => exact Value.lower_of_lastFor h
  | _ => cases h

theorem Visibility.readVerbs_eq_ok_iff {rules : List (Value κ × Value κ)}
    {verbs : List String} :
    readVerbs rules = .ok verbs ↔
      (∀ p ∈ rules.map fun p => (p.1.verb, p.2), p.2.isPublicWord = true) ∧
        verbs = (rules.map fun p => (p.1.verb, p.2)).map (·.1) := by
  rw [List.map_map, List.forall_mem_map]
  induction rules generalizing verbs with
  | nil =>
      rw [readVerbs, Except.ok.injEq]
      exact ⟨fun h => ⟨List.forall_mem_nil _, h.symm⟩, fun h => h.2.symm⟩
  | cons rule rest ih =>
      obtain ⟨verb, value⟩ := rule
      rw [readVerbs]
      split
      · next hword =>
          constructor
          · intro h
            obtain ⟨others, hothers, rfl⟩ := exists_of_map_eq_ok h
            obtain ⟨hwords, rfl⟩ := ih.mp hothers
            exact ⟨List.forall_mem_cons.mpr ⟨hword, hwords⟩, rfl⟩
          · rintro ⟨hwords, rfl⟩
            rw [ih.mpr ⟨(List.forall_mem_cons.mp hwords).2, rfl⟩]
            rfl
      · next hword =>
          refine iff_of_false (fun h => by cases h) fun h => ?_
          exact hword (List.forall_mem_cons.mp h.1).1

theorem Visibility.isOpen_iff {v : Value κ} {visibility : Visibility}
    (h : Visibility.read v = .ok visibility) (verb : String) :
    visibility.isOpen verb = true ↔ v.OpensVerb verb := by
  rw [Visibility.read.eq_def] at h
  split at h
  · injection h with h
    subst h
    constructor
    · intro hopen
      cases hopen
    · exact False.elim
  · next rules =>
      obtain ⟨verbs, hverbs, rfl⟩ := exists_of_map_eq_ok h
      obtain ⟨-, rfl⟩ := readVerbs_eq_ok_iff.mp hverbs
      rw [Visibility.isOpen, List.contains_iff_mem, List.mem_eraseDups, List.map_map,
        List.mem_map]
      rfl
  · next hnone hdict =>
      split at h
      · next hword =>
          injection h with h
          subst h
          cases v with
          | str word => exact ⟨fun _ => beq_iff_eq.mp hword, fun _ => rfl⟩
          | _ => cases hword
      · cases h

theorem RoleRule.listsRole_iff {v : Value κ} {roles : List String}
    (h : readRoles v = .ok roles) (role : Json) :
    v.ListsRole role ↔ ∃ name ∈ roles, role = .str name := by
  rw [readRoles.eq_def] at h
  split at h
  all_goals try cases h
  split at h
  · next items hitems =>
      injection h with h
      subst h
      simp only [Value.ListsRole, hitems, List.mem_eraseDups, List.mem_map]
      constructor
      · rintro ⟨items', hsame, item, hitem, hrole⟩
        injection hsame with hsame
        subst hsame
        exact ⟨item.text, ⟨item, hitem, rfl⟩, hrole⟩
      · rintro ⟨name, ⟨item, hitem, rfl⟩, hrole⟩
        exact ⟨items, rfl, item, hitem, hrole⟩
  · cases h

theorem RoleRule.parallel_readPerVerb {entries : List (Value κ × Value κ)}
    {rules : List (String × List String)} (h : readPerVerb entries = .ok rules) :
    Assoc.Parallel (fun v roles => readRoles v = .ok roles)
      (entries.map fun p => (p.1.verb, p.2)) rules := by
  refine Assoc.parallel_of_reader (by rw [readPerVerb]) ?_ h
  intro key v rest rules h
  rw [readPerVerb] at h
  obtain ⟨roles, hroles, h⟩ := exists_of_bind_eq_ok h
  obtain ⟨others, hothers, h⟩ := exists_of_bind_eq_ok h
  injection h with h
  exact ⟨roles, others, hroles, hothers, h.symm⟩

theorem RoleRule.readPerVerb_of_parallel {entries : List (Value κ × Value κ)}
    {rules : List (String × List String)}
    (h : Assoc.Parallel (fun v roles => readRoles v = .ok roles)
      (entries.map fun p => (p.1.verb, p.2)) rules) : readPerVerb entries = .ok rules := by
  refine Assoc.reader_of_parallel (by rw [readPerVerb]) ?_ h
  intro key v rest roles others hroles hothers
  rw [readPerVerb, hroles, hothers]
  rfl

theorem RoleRule.admitsRole_iff {v : Value κ} {rule : RoleRule} (h : RoleRule.read v = .ok rule)
    (verb : String) (role : Json) : v.AdmitsRole verb role ↔
      ∀ roles, rule.accepted verb = some roles → ∃ name ∈ roles, role = .str name := by
  rw [RoleRule.read.eq_def] at h
  split at h
  · injection h with h
    subst h
    constructor
    · intro _ roles hroles
      cases hroles
    · exact fun _ => trivial
  · next entries =>
      obtain ⟨rules, hrules, rfl⟩ := exists_of_map_eq_ok h
      have hrel := (parallel_readPerVerb hrules).last? verb
      rw [Value.AdmitsRole, RoleRule.accepted, Assoc.get?_ofList, Value.lastFor]
      generalize Assoc.last? verb (entries.map fun p => (p.1.verb, p.2)) = declared at hrel ⊢
      generalize Assoc.last? verb rules = given at hrel ⊢
      cases hrel with
      | none => simp
      | some hroles => simp [listsRole_iff hroles]
  · next hnone hdict =>
      obtain ⟨roles, hroles, rfl⟩ := exists_of_map_eq_ok h
      have hlist : v.AdmitsRole verb role = v.ListsRole role := by
        rw [Value.AdmitsRole.eq_def]
        split
        · exact absurd rfl hnone
        · next rules => exact absurd rfl (hdict rules)
        · rfl
      rw [hlist, RoleRule.accepted, listsRole_iff hroles]
      simp only [Option.some.injEq, forall_eq']

/-! ## Nodes -/

/-- The tree that is read of `v` keeps what is declared there about a verb. -/
structure RouteTree.Keeps (t : RouteTree κ) (v : Value κ) (verb : String) (handler : κ) :
    Prop where
  offers : v.Offers verb handler
  isPublic_iff : (Policy.resolve t.visibility t.roles verb).isPublic = true ↔ v.Opens verb
  admits_iff : ¬ v.Opens verb → ∀ role,
    (Policy.resolve t.visibility t.roles verb).Admits role ↔ v.Admits verb role

theorem Policy.resolve_isPublic (visibility : Visibility) (roles : RoleRule) (verb : String) :
    (resolve visibility roles verb).isPublic = visibility.isOpen (Text.lower verb) := by
  simp only [resolve]
  split
  · next hopen => exact hopen.symm
  · next hopen => exact (Bool.eq_false_iff.mpr hopen).symm

theorem Policy.resolve_roles {visibility : Visibility} {roles : RoleRule} {verb : String}
    (h : visibility.isOpen (Text.lower verb) ≠ true) :
    (resolve visibility roles verb).roles = roles.accepted (Text.lower verb) := by
  simp only [resolve, if_neg h]

theorem RouteTree.keeps_of_read {v : Value κ} {t : RouteTree κ} (hread : read v = .ok t)
    {verb : String} {handler : κ} (hmem : (verb, handler) ∈ t.methods) :
    t.Keeps v verb handler := by
  cases v with
  | tree t' =>
      rw [read] at hread
      injection hread with hread
      subst hread
      refine ⟨hmem, by rw [Policy.resolve_isPublic, Value.Opens], fun hclosed role => ?_⟩
      rw [Policy.Admits, Policy.resolve_roles hclosed, Value.Admits]
  | dict entries =>
      obtain ⟨hmethods, haccess, hroles, -⟩ := read_dict hread
      have hhandler := hasHandler_of_readMethods hmethods hmem
      have hsmall : Text.lower verb = verb := Value.lower_of_hasHandler hhandler
      have hopens : t.visibility.isOpen (Text.lower verb) = true ↔
          (Value.dict entries).Opens verb := by
        rw [hsmall, Visibility.isOpen_iff haccess, Value.Opens]
      refine ⟨hhandler, by rw [Policy.resolve_isPublic, hopens], fun hclosed role => ?_⟩
      rw [Policy.Admits, Policy.resolve_roles fun hopen => hclosed (hopens.mp hopen), hsmall,
        Value.Admits, RoleRule.admitsRole_iff hroles]
  | _ => simp [read] at hread

/-! ## Entries -/

/-- The node that declares the entry at a place of the table: the table has its origin at
the same place, and the origin leads to the node. -/
inductive RouteTable.DeclaredAt (opts : CompileOptions) (roots : List (Value κ))
    (table : RouteTable κ) (k : Nat) (node : Value κ) : Prop
  | intro {trees : List (RouteTree κ)} {origins : List Origin} {i j : Nat} {way : List Nat}
      {root : Value κ}
      (hread : List.Forall₂ (fun v t => RouteTree.read v = .ok t) roots trees)
      (hlaid : LaidOut opts trees origins table) (horigin : origins[k]? = some ⟨i :: way, j⟩)
      (hroot : roots[i]? = some root) (hdown : root.Descends way node)

/-- What is declared at the node of an entry holds of the entry. -/
theorem RouteTable.DeclaredAt.describes {opts : CompileOptions} {roots : List (Value κ)}
    {table : RouteTable κ} {k : Nat} {node : Value κ} (h : DeclaredAt opts roots table k node)
    {e : RouteEntry κ} (he : table[k]? = some e) :
    node.Offers e.verb e.handler ∧ (e.policy.isPublic = true ↔ node.Opens e.verb) ∧
      (¬ node.Opens e.verb → ∀ role, e.policy.Admits role ↔ node.Admits e.verb role) := by
  obtain ⟨hread, hlaid, horigin, hroot, hdown⟩ := h
  obtain ⟨o, ho, hdeclares⟩ := exists_getElem?_of_forall₂ hlaid.entries he
  rw [horigin] at ho
  injection ho with ho
  subst ho
  cases hdeclares with
  | intro htree hurl hchain hverb =>
      obtain ⟨v, hv, hvread⟩ := exists_getElem?_of_forall₂ hread htree
      rw [hroot] at hv
      injection hv with hv
      subst hv
      obtain ⟨node', hnode, hnodeRead⟩ := RouteTree.exists_descends hchain hvread
      obtain rfl := hnode.eq hdown
      have hkeeps := RouteTree.keeps_of_read hnodeRead (List.mem_of_getElem? hverb)
      exact ⟨hkeeps.offers, hkeeps.isPublic_iff, hkeeps.admits_iff⟩

/-- Every entry of a compiled table has a node that declares it. -/
theorem RouteTable.exists_declaredAt {opts : CompileOptions} {roots : List (Value κ)}
    {table : RouteTable κ} (hcompile : (compile opts (.list roots)).result = .ok table)
    {k : Nat} {e : RouteEntry κ} (he : table[k]? = some e) :
    ∃ node, DeclaredAt opts roots table k node := by
  obtain ⟨trees, origins, hread, hlaid⟩ := compile_laidOut hcompile
  obtain ⟨o, ho, hdeclares⟩ := exists_getElem?_of_forall₂ hlaid.entries he
  cases hdeclares with
  | intro htree hurl hchain hverb =>
      obtain ⟨v, hv, hvread⟩ := exists_getElem?_of_forall₂ hread htree
      obtain ⟨node, hnode, -⟩ := RouteTree.exists_descends hchain hvread
      exact ⟨node, DeclaredAt.intro hread hlaid ho hv hnode⟩

end Gatehouse
