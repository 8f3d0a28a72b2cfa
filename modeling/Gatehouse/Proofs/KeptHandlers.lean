import Gatehouse.Proofs.Locality
import Gatehouse.Proofs.Refusals
import Mathlib.Data.List.Nodup

/-!
# What becomes of declared handlers

The compiler makes an entry of every handler that it is given, and says so when the entry
repeats an earlier one. What it is given is not quite what was declared: reading a mapping of
methods spells its keys in small letters, reading a mapping of children takes the texts of its
keys, and of several keys that come to the same the last one counts. The others are covered,
with all that is below them, and nothing is said about them.

`Value.declared` lists what is declared below a node, going through every member of every
mapping, and `Value.dropped` what is covered there. The two differ by what the table has,
verb by verb and handler by handler: the table with the dropped members is a rearrangement of
what is declared. The order is not kept, since what comes to a key that is there already
takes the place of the key.
-/

namespace Gatehouse

variable {κ : Type}

/-! ## Covered pairs -/

namespace Assoc

variable {α β : Type} [DecidableEq α] {ps : List (α × β)} {key : α} {value : β}

/-- The pairs whose key comes again behind them. -/
def covered : List (α × β) → List (α × β)
  | [] => []
  | p :: rest => if p.1 ∈ rest.map (·.1) then p :: covered rest else covered rest

/-- The other pairs, each the last one of its key. -/
def lasts : List (α × β) → List (α × β)
  | [] => []
  | p :: rest => if p.1 ∈ rest.map (·.1) then lasts rest else p :: lasts rest

theorem lasts_append_covered_perm (ps : List (α × β)) : (lasts ps ++ covered ps).Perm ps := by
  induction ps with
  | nil => exact .nil
  | cons p rest ih =>
      rw [lasts, covered]
      split
      · exact List.perm_middle.trans (ih.cons p)
      · exact ih.cons p

theorem covered_eq_nil (h : (ps.map (·.1)).Nodup) : covered ps = [] := by
  induction ps with
  | nil => rfl
  | cons p rest ih =>
      rw [List.map_cons, List.nodup_cons] at h
      rw [covered, if_neg h.1]
      exact ih h.2

theorem mem_keys_of_mem_lasts {p : α × β} (h : p ∈ lasts ps) : p.1 ∈ ps.map (·.1) :=
  List.mem_map_of_mem ((lasts_append_covered_perm ps).subset (List.mem_append_left _ h))

theorem nodup_keys_lasts (ps : List (α × β)) : ((lasts ps).map (·.1)).Nodup := by
  induction ps with
  | nil => exact List.nodup_nil
  | cons p rest ih =>
      rw [lasts]
      split
      · exact ih
      · next hlast =>
          rw [List.map_cons, List.nodup_cons]
          refine ⟨fun hagain => ?_, ih⟩
          obtain ⟨q, hq, hkey⟩ := List.mem_map.mp hagain
          exact hlast (hkey ▸ mem_keys_of_mem_lasts hq)

theorem mem_lasts_iff : (key, value) ∈ lasts ps ↔ last? key ps = some value := by
  induction ps with
  | nil =>
      constructor
      · intro hmem
        cases hmem
      · intro hlast
        cases hlast
  | cons p rest ih =>
      obtain ⟨k, v⟩ := p
      have hinsert := last?_insert key k v [] rest
      rw [List.nil_append, show last? key ([] : List (α × β)) = none from rfl,
        Option.or_none] at hinsert
      rw [lasts, hinsert]
      split
      · next hagain =>
          rw [ih]
          by_cases hkey : k = key
          · subst hkey
            obtain ⟨w, hw⟩ := Option.isSome_iff_exists.mp (last?_isSome hagain)
            rw [hw, Option.some_or]
          · rw [if_neg hkey, Option.or_none]
      · next hlast =>
          rw [List.mem_cons, ih, Prod.mk.injEq]
          by_cases hkey : k = key
          · subst hkey
            rw [last?_eq_none hlast, if_pos rfl, Option.none_or, Option.some.injEq]
            simp [eq_comm]
          · rw [if_neg hkey, Option.or_none]
            simp [Ne.symm hkey]

theorem mem_of_get? (h : get? key ps = some value) : (key, value) ∈ ps := by
  induction ps with
  | nil => cases h
  | cons p rest ih =>
      obtain ⟨k, v⟩ := p
      rw [get?] at h
      split at h
      · next hkey =>
          injection h with h
          subst hkey h
          exact List.mem_cons_self
      · exact List.mem_cons_of_mem _ (ih h)

theorem mem_ofList_iff : (key, value) ∈ ofList ps ↔ last? key ps = some value := by
  rw [← get?_ofList]
  exact ⟨get?_of_mem (nodup_keys_ofList ps), mem_of_get?⟩

/-- Putting pairs one after the other loses the covered ones and no other. -/
theorem ofList_append_covered_perm (ps : List (α × β)) : (ofList ps ++ covered ps).Perm ps := by
  have hlasts : (ofList ps).Perm (lasts ps) := by
    refine (List.perm_ext_iff_of_nodup (List.Nodup.of_map _ (nodup_keys_ofList ps))
      (List.Nodup.of_map _ (nodup_keys_lasts ps))).mpr ?_
    rintro ⟨key, value⟩
    rw [mem_ofList_iff, mem_lasts_iff]
  exact (hlasts.append_right _).trans (lasts_append_covered_perm ps)

end Assoc

/-! ## Lists side by side -/

section

variable {α β γ : Type}

theorem flatMap_attach (xs : List α) (f : α → List β) :
    (xs.attach.flatMap fun x => f x.1) = xs.flatMap f := by
  rw [← List.flatMap_map, List.attach_map_subtype_val]

theorem append_interchange_perm (xs ys zs ws : List α) :
    ((xs ++ ys) ++ (zs ++ ws)).Perm ((xs ++ zs) ++ (ys ++ ws)) := by
  rw [List.append_assoc, List.append_assoc]
  exact (List.perm_append_comm_assoc ys zs ws).append_left xs

/-- If each member has its own part and the rest apart, so have all of them together. -/
theorem perm_flatMap_of_forall₂ {whole rest : α → List γ} {part : β → List γ} {xs : List α}
    {ys : List β} (h : List.Forall₂ (fun x y => (part y ++ rest x).Perm (whole x)) xs ys) :
    (ys.flatMap part ++ xs.flatMap rest).Perm (xs.flatMap whole) := by
  induction h with
  | nil => exact .nil
  | cons hxy _ ih =>
      rw [List.flatMap_cons, List.flatMap_cons, List.flatMap_cons]
      exact (append_interchange_perm _ _ _ _).trans (hxy.append ih)

end

/-! ## What is declared and what is covered -/

namespace Value

/-- The members of a mapping of methods, with a pair for each key. -/
def verbMembers : Value κ → List (String × Value κ)
  | .dict methods => methods.map fun p => (p.1.verb, p.2)
  | _ => []

/-- What a node has for its own verbs. -/
def ownMembers : Value κ → List (String × Value κ)
  | .dict entries => (RouteTree.field "methods" entries).verbMembers
  | .tree t => t.methods.map fun m => (m.1, .callable m.2)
  | _ => []

/-- The children of a node, with a pair for each key of the mapping. -/
def childMembers : Value κ → List (String × Value κ)
  | .tree t => t.children.map fun c => (c.1, .tree c.2)
  | v => v.childEntries.map fun p => (p.1.text, p.2)

theorem sizeOf_of_mem_childMembers {v : Value κ} {p : String × Value κ}
    (h : p ∈ v.childMembers) : sizeOf p.2 < sizeOf v := by
  rw [childMembers.eq_def] at h
  split at h
  · next t =>
      obtain ⟨c, hc, rfl⟩ := List.mem_map.mp h
      have hlt := List.sizeOf_lt_of_mem hc
      obtain ⟨url, version, methods, visibility, roles, children⟩ := t
      obtain ⟨key, child⟩ := c
      simp only [Prod.mk.sizeOf_spec, RouteTree.mk.sizeOf_spec, tree.sizeOf_spec] at hlt ⊢
      omega
  · obtain ⟨q, hq, rfl⟩ := List.mem_map.mp h
    exact sizeOf_of_mem_childEntries hq

theorem childMembers_dict (entries : List (Value κ × Value κ)) :
    (Value.dict entries).childMembers =
      (Value.dict entries).childEntries.map fun p => (p.1.text, p.2) := rfl

theorem childNodes_dict (entries : List (Value κ × Value κ)) :
    (Value.dict entries).childNodes = Assoc.ofList (Value.dict entries).childMembers := by
  rw [childNodes, childMembers_dict, childEntries]
  cases RouteTree.field "children" entries <;> rfl

theorem exists_mem_childEntries {entries : List (Value κ × Value κ)} {p : String × Value κ}
    (h : p ∈ (Value.dict entries).childNodes) :
    ∃ q ∈ (Value.dict entries).childEntries, q.2 = p.2 := by
  rw [childNodes_dict, childMembers_dict] at h
  obtain ⟨q, hq, rfl⟩ := List.mem_map.mp
    ((Assoc.ofList_append_covered_perm _).subset (List.mem_append_left _ h))
  exact ⟨q, hq, rfl⟩

/-- The members of the methods of a node and of all nodes below it. -/
def declared (v : Value κ) : List (String × Value κ) :=
  v.ownMembers ++ v.childMembers.attach.flatMap fun p => p.1.2.declared
termination_by sizeOf v
decreasing_by exact sizeOf_of_mem_childMembers p.2

/-- The declared members that are covered, or below a child that is covered. What was read
before it was handed over has none. -/
def dropped : Value κ → List (String × Value κ)
  | .dict entries =>
    Assoc.covered (Value.dict entries).ownMembers ++
      ((Value.dict entries).childNodes.attach.flatMap (fun p => p.1.2.dropped) ++
        (Assoc.covered (Value.dict entries).childMembers).flatMap fun p => p.2.declared)
  | _ => []
termination_by v => sizeOf v
decreasing_by
  obtain ⟨q, hq, hsame⟩ := exists_mem_childEntries p.2
  exact hsame ▸ sizeOf_of_mem_childEntries hq

theorem declared_eq (v : Value κ) :
    v.declared = v.ownMembers ++ v.childMembers.flatMap fun p => p.2.declared := by
  rw [declared, flatMap_attach v.childMembers fun p => p.2.declared]

theorem dropped_tree (t : RouteTree κ) : (Value.tree t).dropped = [] := by
  simp only [dropped]

theorem dropped_dict (entries : List (Value κ × Value κ)) :
    (Value.dict entries).dropped = Assoc.covered (Value.dict entries).ownMembers ++
      ((Value.dict entries).childNodes.flatMap (fun p => p.2.dropped) ++
        (Assoc.covered (Value.dict entries).childMembers).flatMap fun p => p.2.declared) := by
  rw [dropped, flatMap_attach (Value.dict entries).childNodes fun p => p.2.dropped]

/-- No two keys of a mapping of methods or of children come to the same, here or below. -/
inductive KeysApart : Value κ → Prop
  | tree (t : RouteTree κ) : KeysApart (.tree t)
  | dict {entries : List (Value κ × Value κ)}
      (hverbs : ((Value.dict entries).ownMembers.map (·.1)).Nodup)
      (htexts : ((Value.dict entries).childMembers.map (·.1)).Nodup)
      (hbelow : ∀ p ∈ (Value.dict entries).childEntries, KeysApart p.2) :
      KeysApart (.dict entries)

theorem dropped_of_keysApart {v : Value κ} (h : v.KeysApart) : v.dropped = [] := by
  induction h with
  | tree t => exact dropped_tree t
  | dict hverbs htexts _ ih =>
      rw [dropped_dict, Assoc.covered_eq_nil hverbs, Assoc.covered_eq_nil htexts,
        List.flatMap_nil, List.append_nil, List.nil_append, List.flatMap_eq_nil_iff]
      intro p hp
      obtain ⟨q, hq, hsame⟩ := exists_mem_childEntries hp
      rw [← hsame]
      exact ih q hq

end Value

namespace RouteTree

variable {v : Value κ} {t : RouteTree κ} {entries : List (Value κ × Value κ)}

/-- What is read of the methods of a node is what comes last for each verb. -/
theorem ofList_verbMembers {methods : List (String × κ)} (h : readMethods v = .ok methods) :
    Assoc.ofList v.verbMembers = methods.map fun m => (m.1, .callable m.2) := by
  cases v with
  | dict entries =>
      rw [readMethods] at h
      obtain ⟨handlers, hhandlers, rfl⟩ := exists_of_map_eq_ok h
      rw [Value.verbMembers, ← List.forall₂_eq_eq_eq, List.forall₂_map_right_iff]
      refine (parallel_readHandlers hhandlers).ofList.imp ?_
      rintro ⟨verb, member⟩ ⟨verb', f⟩ ⟨hverb, hmember⟩
      exact Prod.ext hverb hmember
  | _ =>
      have hnone : [] = methods := by
        simp only [readMethods] at h
        split at h
        · cases h
        · injection h
      rw [← hnone]
      rfl

theorem ownMembers_of_read (h : read (.dict entries) = .ok t) :
    (Value.tree t).ownMembers = Assoc.ofList (Value.dict entries).ownMembers := by
  rw [Value.ownMembers, Value.ownMembers, ofList_verbMembers (read_dict h).1]

/-- What is declared and not read is covered. -/
theorem declared_of_read (h : read v = .ok t) :
    ((Value.tree t).declared ++ v.dropped).Perm v.declared := by
  induction v using Value.childInduction generalizing t with
  | h v ih =>
      cases v with
      | tree t' =>
          rw [read] at h
          injection h with h
          rw [h, Value.dropped_tree, List.append_nil]
      | dict entries =>
          let node := Value.dict entries
          have hchildren : List.Forall₂ (fun p c =>
              ((Value.tree c.2).declared ++ p.2.dropped).Perm p.2.declared)
              node.childNodes t.children := by
            refine ((List.forall₂_and_left _ _).mpr
              ⟨fun p => Value.exists_mem_childEntries, parallel_childNodes h⟩).imp ?_
            rintro ⟨key, child⟩ ⟨key', c⟩ ⟨⟨q, hq, hsame⟩, -, hread⟩
            rw [← hsame] at hread ⊢
            exact ih q hq hread
          have htree : (Value.tree t).childMembers.flatMap (fun p => p.2.declared) =
              t.children.flatMap fun c => (Value.tree c.2).declared := by
            rw [Value.childMembers, List.flatMap_map]
          have hown := Assoc.ofList_append_covered_perm node.ownMembers
          have hbelow : (t.children.flatMap (fun c => (Value.tree c.2).declared) ++
              (node.childNodes.flatMap (fun p => p.2.dropped) ++
                (Assoc.covered node.childMembers).flatMap fun p => p.2.declared)).Perm
              (node.childMembers.flatMap fun p => p.2.declared) := by
            rw [← List.append_assoc]
            refine ((perm_flatMap_of_forall₂ hchildren).append_right _).trans ?_
            rw [← List.flatMap_append, Value.childNodes_dict]
            exact (Assoc.ofList_append_covered_perm node.childMembers).flatMap_right _
          rw [Value.declared_eq, ownMembers_of_read h, htree, Value.dropped_dict,
            Value.declared_eq node]
          exact (append_interchange_perm _ _ _ _).trans (hown.append hbelow)
      | _ => simp [read] at h

end RouteTree

/-! ## Roots -/

namespace Value

/-- Whether a root has a url. -/
def hasUrl : Value κ → Bool
  | .dict entries =>
    match RouteTree.field "url" entries with
    | .none => false
    | _ => true
  | .tree t => t.url.isSome
  | _ => false

/-- What is declared below a root; without a url it counts for nothing. -/
def mountedMembers (v : Value κ) : List (String × Value κ) :=
  if v.hasUrl then v.declared else []

/-- What is covered below a root. -/
def mountedDropped (v : Value κ) : List (String × Value κ) :=
  if v.hasUrl then v.dropped else []

theorem mountedDropped_of_keysApart {v : Value κ} (h : v.KeysApart) : v.mountedDropped = [] := by
  rw [mountedDropped, dropped_of_keysApart h, ite_self]

end Value

/-- The verb and the handler of an entry, as a member of a mapping of methods. -/
def RouteEntry.asMember (e : RouteEntry κ) : String × Value κ := (e.verb, .callable e.handler)

namespace RouteTree

variable {v : Value κ} {t : RouteTree κ}

theorem hasUrl_of_read (h : read v = .ok t) : v.hasUrl = t.url.isSome := by
  cases v with
  | tree t' =>
      rw [read] at h
      injection h with h
      rw [h, Value.hasUrl]
  | dict entries =>
      obtain ⟨hurl, -⟩ := read_dict_mount h
      rw [Value.hasUrl]
      rw [readText.eq_def] at hurl
      split at hurl
      · next hfield => injection hurl with hurl; rw [hfield, ← hurl]; rfl
      · next hfield => injection hurl with hurl; rw [hfield, ← hurl]; rfl
      · next hfield => injection hurl with hurl; rw [hfield, ← hurl]; rfl
      · cases hurl
  | _ => simp [read] at h

/-- Laying out a tree makes an entry of every member. -/
theorem map_asMember_entries (path : String) (isRoot : Bool) (t : RouteTree κ) :
    (t.entries path isRoot).map RouteEntry.asMember = (Value.tree t).declared := by
  induction t using induction generalizing path isRoot with
  | h t ih =>
      have hown : (t.ownEntries path).map RouteEntry.asMember = (Value.tree t).ownMembers := by
        rw [ownEntries, List.map_map, Value.ownMembers]
        rfl
      have hbelow : (t.children.map fun c =>
          (c.2.entries (childPath path isRoot c.1 c.2) false).map RouteEntry.asMember) =
          t.children.map fun c => (Value.tree c.2).declared :=
        List.map_congr_left fun c hc => ih c hc _ _
      rw [entries_eq, List.map_append, hown, List.map_flatten, List.map_map, Value.declared_eq,
        Value.childMembers, List.flatMap_map, List.flatMap_def, ← hbelow]
      rfl

theorem map_asMember_rootEntries {opts : CompileOptions} (h : read v = .ok t) :
    ((RouteTable.rootEntries opts t).map RouteEntry.asMember ++ v.mountedDropped).Perm
      v.mountedMembers := by
  rw [RouteTable.rootEntries, layoutRoot, Value.mountedDropped, Value.mountedMembers,
    hasUrl_of_read h]
  cases t.url with
  | none => exact .nil
  | some url =>
      have hentries := t.map_asMember_entries (t.mountPath opts.base opts.defaultVersion) true
      rw [entries] at hentries
      simp only [Option.isSome_some, ↓reduceIte, hentries]
      exact declared_of_read h

end RouteTree

/-! ## What is said about repetitions -/

namespace RouteTable

variable {opts : CompileOptions} {roots : List (Value κ)} {p p' : Progress κ}

/-- What is said about an entry that repeats an earlier one. -/
def shadowWarning (e : RouteEntry κ) : LogEntry :=
  compilerLog .warning ("Duplicate route " ++ Text.upper e.verb ++ " " ++ e.path ++
    " -- later declaration is shadowed")

/-- Whether something has been said about every entry that repeats an earlier one. -/
def ReportsRepetitions (table : RouteTable κ) (logs : List LogEntry) : Prop :=
  ∀ (before : RouteTable κ) (e : RouteEntry κ) (behind : RouteTable κ),
    table = before ++ e :: behind → before.holds e.path e.verb = true → shadowWarning e ∈ logs

theorem ReportsRepetitions.append {table : RouteTable κ} {logs : List LogEntry}
    (h : ReportsRepetitions table logs) (more : List LogEntry) :
    ReportsRepetitions table (logs ++ more) :=
  fun before e behind htable hholds => List.mem_append_left _ (h before e behind htable hholds)

theorem step_reports {strict : Bool} {s : LayoutStep κ} (h : step strict p s = .ok p')
    (hp : ReportsRepetitions p.table p.logs) : ReportsRepetitions p'.table p'.logs := by
  cases s with
  | entry e =>
      rw [step] at h
      injection h with h
      subst h
      intro before e' behind htable hholds
      -- the entry looked at is the new one, or has been there before
      rcases List.eq_nil_or_concat' behind with rfl | ⟨behind, last, rfl⟩
      · obtain ⟨rfl, hlast⟩ := List.append_inj' htable rfl
        injection hlast with hlast
        subst hlast
        rw [if_pos hholds]
        exact List.mem_append_right _ List.mem_cons_self
      · rw [← List.cons_append, ← List.append_assoc] at htable
        obtain ⟨htable, -⟩ := List.append_inj' htable rfl
        exact hp.append _ before e' behind htable hholds
  | emptyNode path =>
      rw [step] at h
      split at h
      · cases h
      · injection h with h
        subst h
        exact hp.append _
  | rootWithoutUrl =>
      rw [step] at h
      split at h
      · cases h
      · injection h with h
        subst h
        exact hp.append _

theorem runSteps_reports {strict : Bool} {steps : List (LayoutStep κ)}
    (h : runSteps strict p steps = .ok p') (hp : ReportsRepetitions p.table p.logs) :
    ReportsRepetitions p'.table p'.logs := by
  induction steps generalizing p with
  | nil =>
      rw [runSteps] at h
      injection h with h
      rwa [← h]
  | cons s rest ih =>
      rw [runSteps] at h
      split at h
      · next p₁ hstep => exact ih h (step_reports hstep hp)
      · cases h

theorem runRoots_reports (h : runRoots opts p roots = .ok p')
    (hp : ReportsRepetitions p.table p.logs) : ReportsRepetitions p'.table p'.logs := by
  induction roots generalizing p with
  | nil =>
      rw [runRoots] at h
      injection h with h
      rwa [← h]
  | cons v rest ih =>
      rw [runRoots] at h
      split at h
      · next p₁ hroot =>
          rw [runRoot] at hroot
          split at hroot
          · cases hroot
          · exact ih h (runSteps_reports hroot hp)
      · cases h

/-- The entries of a table and the covered members are what is declared, so the table has as
many entries as there are members exactly if none is covered, which is so when the keys of
every mapping stay apart. An entry that repeats an earlier one is reported. -/
theorem declared_kept_or_dropped {table : RouteTable κ}
    (hcompile : (compile opts (.list roots)).result = .ok table) :
    (table.map RouteEntry.asMember ++ roots.flatMap Value.mountedDropped).Perm
        (roots.flatMap Value.mountedMembers) ∧
      (table.length = (roots.flatMap Value.mountedMembers).length ↔
        ∀ v ∈ roots, v.mountedDropped = []) ∧
      ((∀ v ∈ roots, v.KeysApart) → table.length = (roots.flatMap Value.mountedMembers).length) ∧
      ReportsRepetitions table (compile opts (.list roots)).logs := by
  simp only [compile, Value.items?, compileRoots] at hcompile ⊢
  split at hcompile
  · cases hcompile
  · next p hrun =>
      injection hcompile with hcompile
      subst hcompile
      obtain ⟨trees, hread, htable⟩ := runRoots_table hrun
      rw [show Progress.empty.table = ([] : RouteTable κ) from rfl, List.nil_append] at htable
      have hmembers : (p.table.map RouteEntry.asMember ++ roots.flatMap Value.mountedDropped).Perm
          (roots.flatMap Value.mountedMembers) := by
        rw [htable, List.map_flatten, List.map_map, ← List.flatMap_def]
        exact perm_flatMap_of_forall₂
          (hread.imp fun v t h => RouteTree.map_asMember_rootEntries h)
      have hlength := hmembers.length_eq
      rw [List.length_append, List.length_map] at hlength
      have hnone : p.table.length = (roots.flatMap Value.mountedMembers).length ↔
          ∀ v ∈ roots, v.mountedDropped = [] := by
        rw [← hlength, Nat.left_eq_add, List.length_eq_zero_iff, List.flatMap_eq_nil_iff]
      refine ⟨hmembers, hnone, fun hapart => ?_,
        (runRoots_reports hrun fun before e behind h => ?_).append _⟩
      · exact hnone.mpr fun v hv => Value.mountedDropped_of_keysApart (hapart v hv)
      · exact absurd h.symm (List.append_ne_nil_of_right_ne_nil _ (List.cons_ne_nil e behind))

/-! A root that spells one verb in two ways. -/

def twiceSpelt : Datum :=
  .dict [(.str "url", .str "/x"),
    (.str "methods", .dict [(.str "GET", .callable "first"), (.str "get", .callable "last")])]

def lastSpelt : RouteEntry String := ⟨"/api/v1/x", "get", ⟨false, none⟩, "last"⟩

theorem read_twiceSpelt : RouteTree.read twiceSpelt =
    .ok ⟨some "/x", none, [("get", "last")], .identified, .anyone, []⟩ := by
  simp only [twiceSpelt, RouteTree.read, RouteTree.readChildrenField_eq, RouteTree.field_cons,
    Value.same_str_str, RouteTree.assemble]
  rfl

theorem mountedMembers_twiceSpelt : twiceSpelt.mountedMembers =
    [("get", .callable "first"), ("get", .callable "last")] := by
  rw [twiceSpelt, Value.mountedMembers, Value.hasUrl, Value.declared_eq, Value.ownMembers,
    Value.childMembers_dict, Value.childEntries]
  simp only [RouteTree.field_cons, Value.same_str_str]
  rfl

/-- Of the handlers for one verb the last one is kept, and nothing is said about the other. -/
theorem first_spelling_dropped :
    twiceSpelt.mountedMembers = [("get", .callable "first"), ("get", .callable "last")] ∧
      compile ⟨"api", "v1", false⟩ (.list [twiceSpelt]) =
        ⟨.ok [lastSpelt], [compilerLog .info "Compiled 1 route(s) across 1 path(s)"]⟩ := by
  refine ⟨mountedMembers_twiceSpelt, ?_⟩
  simp only [compile, Value.items?, compileRoots, runRoots, runRoot, read_twiceSpelt]
  rfl

/-- Declared once more, it is dropped once more; what is kept the second time is reported. -/
theorem both_spelt_twice :
    (compile ⟨"api", "v1", false⟩ (.list [twiceSpelt, twiceSpelt])).result =
        .ok [lastSpelt, lastSpelt] ∧
      twiceSpelt.mountedDropped ≠ [] ∧
      shadowWarning lastSpelt ∈
        (compile ⟨"api", "v1", false⟩ (.list [twiceSpelt, twiceSpelt])).logs := by
  have hcompile : (compile ⟨"api", "v1", false⟩ (.list [twiceSpelt, twiceSpelt])).result =
      .ok [lastSpelt, lastSpelt] := by
    simp only [compile, Value.items?, compileRoots, runRoots, runRoot, read_twiceSpelt]
    rfl
  obtain ⟨-, hlength, -, hreports⟩ := declared_kept_or_dropped hcompile
  refine ⟨hcompile, fun hnone => ?_, hreports [lastSpelt] lastSpelt [] rfl (by decide)⟩
  have hfour := hlength.mpr (by simpa using hnone)
  simp [mountedMembers_twiceSpelt] at hfour

end RouteTable

end Gatehouse
