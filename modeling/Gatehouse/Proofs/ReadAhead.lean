import Gatehouse.Proofs.Refusals
import Gatehouse.Proofs.Spelling

/-!
# Nodes that are read ahead

A declaration may hold nodes that have been read before: whoever reads it takes such a node as
it is, and checks nothing about it any more. So it should not matter who reads a node, and when:
any of the nodes of a declaration, roots among them, may be read ahead and put back in place of
the mapping that declared it.

`Value.readAheadAt` does this at one place, which the numbers of the members lead to. Reading
passes through one mapping of children on the way for each of the numbers, so the induction
is on the way, and a step of it is `RouteTree.read_changeChild`: a child may be exchanged for any
value that is read as the same tree. Any number of places may then be taken one after the other,
also such that lie below each other (`RouteTable.forall₂_read_readAhead`), and the trees are all
that is compiled.
-/

namespace Gatehouse

variable {κ : Type}

/-! ## Reading a part of a declaration ahead -/

namespace Value

/-- The tree that a value declares, in the place of the value; what declares none stays. -/
def readAhead (v : Value κ) : Value κ :=
  match RouteTree.read v with
  | .ok t => .tree t
  | .error _ => v

/-- A mapping with the value of its `i`-th member changed. -/
def changeMember (i : Nat) (f : Value κ → Value κ) : Value κ → Value κ
  | .dict members => .dict (members.modify i fun p => (p.1, f p.2))
  | v => v

/-- A declaration with its `i`-th child changed. -/
def changeChild (i : Nat) (f : Value κ → Value κ) : Value κ → Value κ
  | .dict entries => .dict (entries.map fun p =>
      if p.1.same (.str "children") then (p.1, p.2.changeMember i f) else p)
  | v => v

/-- A declaration with the node at the end of a way read ahead. -/
def readAheadAt : List Nat → Value κ → Value κ
  | [], v => v.readAhead
  | i :: way, v => v.changeChild i (readAheadAt way)

/-- `v.Holds way node`: the places `way` among the members of mappings of children lead from
`v` to `node`. -/
inductive Holds : Value κ → List Nat → Value κ → Prop
  | here (v : Value κ) : Holds v [] v
  | down {v child node : Value κ} {i : Nat} {key : Value κ} {way : List Nat}
      (hchild : v.childEntries[i]? = some (key, child)) (hdown : Holds child way node) :
      Holds v (i :: way) node

end Value

/-- Declared roots with the nodes at some positions read ahead, one after the other. A position
is the place of a root and the way from there. -/
def RouteTable.readAhead (positions : List (Nat × List Nat)) (roots : List (Value κ)) :
    List (Value κ) :=
  positions.foldl (fun roots p => roots.modify p.1 (Value.readAheadAt p.2)) roots

/-! ## One child -/

namespace RouteTree

variable {v : Value κ} {t : RouteTree κ} {entries entries' : List (Value κ × Value κ)}

theorem readAhead_of_read (h : read v = .ok t) : v.readAhead = .tree t := by
  rw [Value.readAhead, h]

theorem field_changeChild {name : String} (hname : name ≠ "children") (i : Nat)
    (f : Value κ → Value κ) (entries : List (Value κ × Value κ)) :
    field name (entries.map fun p =>
      if p.1.same (.str "children") then (p.1, p.2.changeMember i f) else p) =
        field name entries := by
  induction entries with
  | nil => rfl
  | cons p rest ih =>
      obtain ⟨k, w⟩ := p
      rw [List.map_cons]
      split
      · next hkey =>
          obtain rfl := (Value.same_str k "children").mp hkey
          have hother : ¬ (Value.str (κ := κ) "children").same (.str name) = true := by
            rw [Value.same_str_str, beq_iff_eq]
            exact fun hsame => hname hsame.symm
          rw [field_cons, field_cons, if_neg hother, if_neg hother, ih]
      · rw [field_cons, field_cons, ih]

theorem field_children_changeChild (i : Nat) (f : Value κ → Value κ)
    (entries : List (Value κ × Value κ)) :
    field "children" (entries.map fun p =>
      if p.1.same (.str "children") then (p.1, p.2.changeMember i f) else p) =
        (field "children" entries).changeMember i f := by
  induction entries with
  | nil => rfl
  | cons p rest ih =>
      obtain ⟨k, w⟩ := p
      rw [List.map_cons]
      split
      · next hkey => rw [field_cons, field_cons, if_pos hkey, if_pos hkey]
      · next hkey => rw [field_cons, field_cons, if_neg hkey, if_neg hkey, ih]

/-- A node is read alike if it differs in nothing but its children, and these are read alike. -/
theorem read_of_children (hkeys : entries'.map (·.1) = entries.map (·.1))
    (hfields : ∀ name, name ≠ "children" → field name entries' = field name entries)
    (hchildren : ∀ cs, readChildrenField entries = .ok cs → readChildrenField entries' = .ok cs)
    (h : read (.dict entries) = .ok t) : read (.dict entries') = .ok t := by
  rw [read] at h ⊢
  obtain ⟨_, hknown, h⟩ := exists_of_bind_eq_ok h
  obtain ⟨url, hurl, h⟩ := exists_of_bind_eq_ok h
  obtain ⟨version, hversion, h⟩ := exists_of_bind_eq_ok h
  obtain ⟨methods, hmethods, h⟩ := exists_of_bind_eq_ok h
  obtain ⟨children, hread, h⟩ := exists_of_bind_eq_ok h
  have hknown' : checkKeys entries' = .ok () := by
    rw [checkKeys, hkeys]
    exact hknown
  rw [hknown', hfields "url" (by decide), hurl, hfields "version" (by decide), hversion,
    hfields "methods" (by decide), hmethods, hchildren children hread]
  change assemble url version methods entries' (Assoc.ofList children) = .ok t
  rw [assemble, hfields "access" (by decide), hfields "roles" (by decide)]
  exact h

variable {f : Value κ → Value κ} (hf : ∀ w n, read w = .ok n → read (f w) = .ok n)

include hf

theorem readChildren_modify {nodes : List (Value κ × Value κ)}
    {children : List (String × RouteTree κ)} (i : Nat) (h : readChildren nodes = .ok children) :
    readChildren (nodes.modify i fun p => (p.1, f p.2)) = .ok children := by
  induction nodes generalizing i children with
  | nil => rwa [List.modify_nil]
  | cons p rest ih =>
      obtain ⟨key, w⟩ := p
      rw [readChildren] at h
      obtain ⟨child, hchild, h⟩ := exists_of_bind_eq_ok h
      obtain ⟨others, hothers, h⟩ := exists_of_bind_eq_ok h
      cases i with
      | zero =>
          rw [List.modify_zero_cons, readChildren, hf w child hchild, hothers]
          exact h
      | succ i =>
          rw [List.modify_succ_cons, readChildren, hchild, ih i hothers]
          exact h

/-- A child may be exchanged for any value that is read as the same tree. -/
theorem read_changeChild (i : Nat) (h : read v = .ok t) : read (v.changeChild i f) = .ok t := by
  cases v with
  | dict entries =>
      rw [Value.changeChild]
      refine read_of_children ?_ (fun name hname => field_changeChild hname i f entries) ?_ h
      · rw [List.map_map]
        refine List.map_congr_left fun p _ => ?_
        rw [Function.comp_apply]
        split <;> rfl
      · intro children hchildren
        rw [readChildrenField_eq] at hchildren ⊢
        rw [field_children_changeChild]
        generalize field "children" entries = members at hchildren ⊢
        cases members with
        | dict nodes => exact readChildren_modify hf i hchildren
        | _ => exact hchildren
  | _ => exact h

end RouteTree

/-! ## One position -/

namespace RouteTree

variable {v node : Value κ} {t : RouteTree κ} {way : List Nat}

/-- Whoever reads a declaration reads the same tree if a node of it was read ahead. -/
theorem read_readAheadAt (way : List Nat) (h : read v = .ok t) :
    read (v.readAheadAt way) = .ok t := by
  induction way generalizing v t with
  | nil =>
      rw [Value.readAheadAt, readAhead_of_read h, read]
  | cons i way ih =>
      rw [Value.readAheadAt]
      exact read_changeChild (fun w n hw => ih hw) i h

theorem childEntries_changeChild (v : Value κ) (i : Nat) (f : Value κ → Value κ) :
    (v.changeChild i f).childEntries = v.childEntries.modify i fun p => (p.1, f p.2) := by
  cases v with
  | dict entries =>
      rw [Value.changeChild, Value.childEntries, field_children_changeChild, Value.childEntries]
      cases field "children" entries <;> simp [Value.changeMember]
  | _ => simp [Value.changeChild, Value.childEntries]

theorem exists_read_of_mem {nodes : List (Value κ × Value κ)}
    {children : List (String × RouteTree κ)} (h : readChildren nodes = .ok children)
    {p : Value κ × Value κ} (hp : p ∈ nodes) : ∃ c, read p.2 = .ok c := by
  obtain ⟨i, hi⟩ := List.mem_iff_getElem?.mp hp
  have hplace : (nodes.map fun p => (p.1.text, p.2))[i]? = some (p.1.text, p.2) := by
    rw [List.getElem?_map, hi, Option.map_some]
  obtain ⟨⟨_, c⟩, -, -, hc⟩ :=
    exists_getElem?_of_forall₂ (List.Forall₂.flip (parallel_readChildren h)) hplace
  exact ⟨c, hc⟩

theorem exists_read_of_mem_childEntries (h : read v = .ok t) {p : Value κ × Value κ}
    (hp : p ∈ v.childEntries) : ∃ c, read p.2 = .ok c := by
  rw [Value.childEntries.eq_def] at hp
  split at hp
  · next entries =>
      split at hp
      · next nodes hnodes =>
          obtain ⟨-, -, -, children, hchildren, -⟩ := read_dict h
          rw [readChildrenField_eq, hnodes] at hchildren
          exact exists_read_of_mem hchildren hp
      · cases hp
  · cases hp

/-- Of a declaration that can be read every node can be read, and reading it ahead puts its
tree in its place. -/
theorem exists_read_of_holds (hholds : v.Holds way node) (h : read v = .ok t) :
    ∃ n, read node = .ok n ∧ (v.readAheadAt way).Holds way (.tree n) := by
  induction hholds generalizing t with
  | here v =>
      refine ⟨t, h, ?_⟩
      rw [Value.readAheadAt, readAhead_of_read h]
      exact .here _
  | @down v child node i key way hchild hdown ih =>
      obtain ⟨c, hc⟩ := exists_read_of_mem_childEntries h (List.mem_of_getElem? hchild)
      obtain ⟨n, hn, hplaced⟩ := ih hc
      have hplace : (v.readAheadAt (i :: way)).childEntries[i]? =
          some (key, child.readAheadAt way) := by
        rw [Value.readAheadAt, childEntries_changeChild, List.getElem?_modify_eq, hchild]
        rfl
      exact ⟨n, hn, .down hplace hplaced⟩

end RouteTree

/-! ## Any number of positions -/

namespace RouteTable

variable {opts : CompileOptions} {roots : List (Value κ)} {trees : List (RouteTree κ)}

theorem forall₂_read_modify {i : Nat} {f : Value κ → Value κ}
    (hf : ∀ w n, RouteTree.read w = .ok n → RouteTree.read (f w) = .ok n)
    (h : List.Forall₂ (fun v t => RouteTree.read v = .ok t) roots trees) :
    List.Forall₂ (fun v t => RouteTree.read v = .ok t) (roots.modify i f) trees := by
  induction h generalizing i with
  | nil =>
      rw [List.modify_nil]
      exact .nil
  | @cons v t roots trees hread hrest ih =>
      cases i with
      | zero => exact .cons (hf v t hread) hrest
      | succ i => exact .cons hread ih

/-- Whatever was read ahead, the same trees are read. -/
theorem forall₂_read_readAhead (positions : List (Nat × List Nat))
    (h : List.Forall₂ (fun v t => RouteTree.read v = .ok t) roots trees) :
    List.Forall₂ (fun v t => RouteTree.read v = .ok t) (readAhead positions roots) trees := by
  induction positions generalizing roots with
  | nil => exact h
  | cons p rest ih =>
      exact ih (forall₂_read_modify (fun _ _ => RouteTree.read_readAheadAt p.2) h)

/-- Any nodes of what is compiled may be read ahead, for each of them can be read: the trees, the
table and all that is said on the way are the same, whether the rules are strict or lax. -/
theorem compile_readAhead {table : RouteTable κ} (positions : List (Nat × List Nat))
    (hcompile : (compile opts (.list roots)).result = .ok table) :
    (∀ root ∈ roots, ∀ way node, root.Holds way node →
      ∃ n, RouteTree.read node = .ok n ∧ (root.readAheadAt way).Holds way (.tree n)) ∧
    (∃ trees, List.Forall₂ (fun v t => RouteTree.read v = .ok t) roots trees ∧
      List.Forall₂ (fun v t => RouteTree.read v = .ok t) (readAhead positions roots) trees) ∧
    ∀ strict, compile { opts with strict } (.list (readAhead positions roots)) =
      compile { opts with strict } (.list roots) := by
  obtain ⟨trees, htrees⟩ := exists_read_of_compile hcompile
  have hahead := forall₂_read_readAhead positions htrees
  refine ⟨?_, ⟨trees, htrees, hahead⟩, fun strict => compile_of_read htrees hahead⟩
  intro root hroot way node hholds
  obtain ⟨i, hi⟩ := List.mem_iff_getElem?.mp hroot
  obtain ⟨t, -, hread⟩ := exists_getElem?_of_forall₂ (List.Forall₂.flip htrees) hi
  exact RouteTree.exists_read_of_holds hholds hread

theorem ledger_holds_page :
    (ledger "GET" "get" "POST" "post").Holds [0] (page "POST" "post") := by
  have hplace : (ledger "GET" "get" "POST" "post").childEntries[0]? =
      some (.str "y", page "POST" "post") := by
    simp only [ledger, Value.childEntries, RouteTree.field_cons, Value.same_str_str]
    rfl
  exact .down hplace (.here _)

/-- The page of the ledger is read ahead, and then the ledger with it. -/
theorem ledger_read_ahead :
    (compile ⟨"api", "v1", false⟩ (.list [ledger "GET" "get" "POST" "post"])).result =
        .ok ledgerTable ∧
      (∃ n, RouteTree.read (page "POST" "post") = .ok n ∧
        ((ledger "GET" "get" "POST" "post").readAheadAt [0]).Holds [0] (.tree n)) ∧
      (compile ⟨"api", "v1", false⟩
        (.list (readAhead [(0, [0]), (0, [])] [ledger "GET" "get" "POST" "post"]))).result =
          .ok ledgerTable := by
  obtain ⟨hnodes, -, hsame⟩ := compile_readAhead [(0, [0]), (0, [])] compile_ledger
  refine ⟨compile_ledger, hnodes _ List.mem_cons_self _ _ ledger_holds_page, ?_⟩
  exact (congrArg Compiled.result (hsame false)).trans compile_ledger

end RouteTable

end Gatehouse
