import Gatehouse.Proofs.KeptHandlers
import Gatehouse.Proofs.StrictRules

/-!
# How verbs are spelt

Verbs stand as keys in three mappings of a node: the methods, the rule for access and the rule
for roles. Each of them is read in a way of its own, but all three readers put a key into small
letters before they do anything else with it, and none of them looks at the key again, unless
to say that something is wrong under it.

So a declaration may spell its verbs as it likes. `Value.Respells` relates two declarations that
differ in nothing else, at any of their nodes; whoever reads the one reads the same tree of the
other (`RouteTree.read_of_respells`), also where several keys of one mapping spell one verb. The
tree is all that the compiler sees of a declaration (`RouteTable.compile_of_read`).
-/

namespace Gatehouse

variable {κ : Type}

/-! ## Declarations that differ in spelling -/

namespace Value

mutual

/-- `v.Respells v'`: the values are the same but for the keys that spell verbs. -/
inductive Respells : Value κ → Value κ → Prop
  | same (v : Value κ) : Respells v v
  | node {entries entries' : List (Value κ × Value κ)} (h : RespellsFields entries entries') :
      Respells (.dict entries) (.dict entries')

/-- The same for the fields of a node, one after the other. -/
inductive RespellsFields : List (Value κ × Value κ) → List (Value κ × Value κ) → Prop
  | nil : RespellsFields [] []
  | same (field : Value κ × Value κ) {rest rest' : List (Value κ × Value κ)}
      (hrest : RespellsFields rest rest') : RespellsFields (field :: rest) (field :: rest')
  /-- The keys of both mappings spell the same verbs in the same order, over the same values. -/
  | verbs {name : String} {members members' rest rest' : List (Value κ × Value κ)}
      (hname : name ∈ ["methods", "access", "roles"])
      (hverbs : (Value.dict members).verbMembers = (Value.dict members').verbMembers)
      (hrest : RespellsFields rest rest') :
      RespellsFields ((.str name, .dict members) :: rest) ((.str name, .dict members') :: rest')
  | children {nodes nodes' rest rest' : List (Value κ × Value κ)}
      (hnodes : RespellsChildren nodes nodes') (hrest : RespellsFields rest rest') :
      RespellsFields ((.str "children", .dict nodes) :: rest)
        ((.str "children", .dict nodes') :: rest')

/-- The same for the nodes under each key. -/
inductive RespellsChildren : List (Value κ × Value κ) → List (Value κ × Value κ) → Prop
  | nil : RespellsChildren [] []
  | cons (key : Value κ) {child child' : Value κ} {rest rest' : List (Value κ × Value κ)}
      (hchild : Respells child child') (hrest : RespellsChildren rest rest') :
      RespellsChildren ((key, child) :: rest) ((key, child') :: rest')

end

theorem RespellsFields.keys_eq {entries entries' : List (Value κ × Value κ)}
    (h : RespellsFields entries entries') :
    entries'.map (·.1) = entries.map (·.1) := by
  match h with
  | .nil => rfl
  | .same _ hrest => rw [List.map_cons, List.map_cons, hrest.keys_eq]
  | .verbs _ _ hrest => rw [List.map_cons, List.map_cons, hrest.keys_eq]
  | .children _ hrest => rw [List.map_cons, List.map_cons, hrest.keys_eq]

/-- What holds of a field other than the children, and holds of a mapping of verbs whichever way
they are spelt, holds of that field in the other declaration. -/
theorem RespellsFields.field {P : Value κ → Prop} {name : String}
    {entries entries' : List (Value κ × Value κ)} (hname : name ≠ "children")
    (hverbs : name ∈ ["methods", "access", "roles"] → ∀ members members',
      (Value.dict members).verbMembers = (Value.dict members').verbMembers →
      P (.dict members) → P (.dict members'))
    (h : RespellsFields entries entries') (hfield : P (RouteTree.field name entries)) :
    P (RouteTree.field name entries') := by
  match h with
  | .nil => exact hfield
  | .same (k, v) hrest =>
      rw [RouteTree.field_cons] at hfield ⊢
      split
      · next hkey => rwa [if_pos hkey] at hfield
      · next hkey =>
          rw [if_neg hkey] at hfield
          exact hrest.field hname hverbs hfield
  | .verbs hamong hsame hrest =>
      rw [RouteTree.field_cons] at hfield ⊢
      split
      · next hkey =>
          rw [if_pos hkey] at hfield
          obtain rfl := str.inj ((same_str _ _).mp hkey)
          exact hverbs hamong _ _ hsame hfield
      · next hkey =>
          rw [if_neg hkey] at hfield
          exact hrest.field hname hverbs hfield
  | .children _ hrest =>
      have hkey : ¬ (Value.str (κ := κ) "children").same (.str name) = true := by
        rw [same_str]
        exact fun hsame => hname (str.inj hsame).symm
      rw [RouteTree.field_cons, if_neg hkey] at hfield ⊢
      exact hrest.field hname hverbs hfield

end Value

/-! ## The three readers -/

section

variable {members members' : List (Value κ × Value κ)}
  (hsame : (Value.dict members).verbMembers = (Value.dict members').verbMembers)

include hsame

theorem RouteTree.readMethods_respelt {methods : List (String × κ)}
    (h : readMethods (.dict members) = .ok methods) :
    readMethods (.dict members') = .ok methods := by
  rw [readMethods] at h ⊢
  obtain ⟨handlers, hhandlers, rfl⟩ := exists_of_map_eq_ok h
  have hparallel := parallel_readHandlers hhandlers
  rw [Value.verbMembers, Value.verbMembers] at hsame
  rw [readHandlers_of_parallel (hsame ▸ hparallel)]
  rfl

theorem Visibility.read_respelt {visibility : Visibility}
    (h : Visibility.read (.dict members) = .ok visibility) :
    Visibility.read (.dict members') = .ok visibility := by
  rw [Visibility.read] at h ⊢
  obtain ⟨verbs, hverbs, rfl⟩ := exists_of_map_eq_ok h
  rw [Value.verbMembers, Value.verbMembers] at hsame
  rw [readVerbs_eq_ok_iff, hsame, ← readVerbs_eq_ok_iff] at hverbs
  rw [hverbs]
  rfl

theorem RoleRule.read_respelt {roles : RoleRule} (h : RoleRule.read (.dict members) = .ok roles) :
    RoleRule.read (.dict members') = .ok roles := by
  rw [RoleRule.read] at h ⊢
  obtain ⟨rules, hrules, rfl⟩ := exists_of_map_eq_ok h
  have hparallel := parallel_readPerVerb hrules
  rw [Value.verbMembers, Value.verbMembers] at hsame
  rw [readPerVerb_of_parallel (hsame ▸ hparallel)]
  rfl

end

/-! ## A whole declaration -/

namespace RouteTree

mutual

/-- Whoever reads a declaration reads the same tree of one that spells its verbs otherwise. -/
theorem read_of_respells {v v' : Value κ} (h : v.Respells v') {t : RouteTree κ}
    (hread : read v = .ok t) : read v' = .ok t := by
  match h with
  | .same _ => exact hread
  | @Value.Respells.node _ entries entries' hfields =>
      rw [read] at hread ⊢
      obtain ⟨_, hkeys, hread⟩ := exists_of_bind_eq_ok hread
      obtain ⟨url, hurl, hread⟩ := exists_of_bind_eq_ok hread
      obtain ⟨version, hversion, hread⟩ := exists_of_bind_eq_ok hread
      obtain ⟨methods, hmethods, hread⟩ := exists_of_bind_eq_ok hread
      obtain ⟨children, hchildren, hread⟩ := exists_of_bind_eq_ok hread
      rw [assemble] at hread
      obtain ⟨visibility, haccess, hread⟩ := exists_of_bind_eq_ok hread
      obtain ⟨roles, hroles, hread⟩ := exists_of_bind_eq_ok hread
      have hkeys' : checkKeys entries' = .ok () := by
        rw [checkKeys, hfields.keys_eq]
        exact hkeys
      -- a mapping is no text, so the texts are the same whatever is spelt otherwise
      have hurl' : readText .badUrl (field "url" entries') = .ok url :=
        hfields.field (P := fun w => readText .badUrl w = .ok url) (by decide)
          (fun h => absurd h (by decide)) hurl
      have hversion' : readText .badVersion (field "version" entries') = .ok version :=
        hfields.field (P := fun w => readText .badVersion w = .ok version) (by decide)
          (fun h => absurd h (by decide)) hversion
      have hmethods' : readMethods (field "methods" entries') = .ok methods :=
        hfields.field (P := fun w => readMethods w = .ok methods) (by decide)
          (fun _ _ _ hsame => readMethods_respelt hsame) hmethods
      have haccess' : Visibility.read (field "access" entries') = .ok visibility :=
        hfields.field (P := fun w => Visibility.read w = .ok visibility) (by decide)
          (fun _ _ _ hsame => Visibility.read_respelt hsame) haccess
      have hroles' : RoleRule.read (field "roles" entries') = .ok roles :=
        hfields.field (P := fun w => RoleRule.read w = .ok roles) (by decide)
          (fun _ _ _ hsame => RoleRule.read_respelt hsame) hroles
      have hchildren' : readChildrenField entries' = .ok children :=
        readChildrenField_of_respells hfields hchildren
      rw [hkeys', hurl', hversion', hmethods', hchildren']
      change assemble url version methods entries' (Assoc.ofList children) = .ok t
      rw [assemble, haccess', hroles']
      exact hread

theorem readChildrenField_of_respells {entries entries' : List (Value κ × Value κ)}
    (h : Value.RespellsFields entries entries') {children : List (String × RouteTree κ)}
    (hread : readChildrenField entries = .ok children) :
    readChildrenField entries' = .ok children := by
  match h with
  | .nil => exact hread
  | .same (k, v) hrest =>
      rw [readChildrenField_cons] at hread ⊢
      split
      · next hkey => rwa [if_pos hkey] at hread
      · next hkey =>
          rw [if_neg hkey] at hread
          exact readChildrenField_of_respells hrest hread
  | @Value.RespellsFields.verbs _ name _ _ _ _ hname _ hrest =>
      have hkey : ¬ (Value.str (κ := κ) name).same (.str "children") = true := by
        rw [Value.same_str]
        intro hsame
        rw [Value.str.inj hsame] at hname
        simp at hname
      rw [readChildrenField_cons, if_neg hkey] at hread ⊢
      exact readChildrenField_of_respells hrest hread
  | .children hnodes _ =>
      rw [readChildrenField] at hread ⊢
      exact readChildren_of_respells hnodes hread

theorem readChildren_of_respells {nodes nodes' : List (Value κ × Value κ)}
    (h : Value.RespellsChildren nodes nodes') {children : List (String × RouteTree κ)}
    (hread : readChildren nodes = .ok children) : readChildren nodes' = .ok children := by
  match h with
  | .nil => exact hread
  | .cons key hchild hrest =>
      rw [readChildren] at hread ⊢
      obtain ⟨c, hc, hread⟩ := exists_of_bind_eq_ok hread
      obtain ⟨others, hothers, hread⟩ := exists_of_bind_eq_ok hread
      rw [read_of_respells hchild hc, readChildren_of_respells hrest hothers]
      exact hread

end

end RouteTree

/-! ## What is compiled -/

namespace RouteTable

variable {opts : CompileOptions} {roots roots' : List (Value κ)}

theorem forall₂_read_of_respells {trees : List (RouteTree κ)}
    (h : List.Forall₂ Value.Respells roots roots')
    (hread : List.Forall₂ (fun v t => RouteTree.read v = .ok t) roots trees) :
    List.Forall₂ (fun v t => RouteTree.read v = .ok t) roots' trees := by
  induction h generalizing trees with
  | nil => exact hread
  | cons hfirst _ ih =>
      cases hread with
      | cons hfirstRead hrest =>
          exact .cons (RouteTree.read_of_respells hfirst hfirstRead) (ih hrest)

/-- What is compiled of two lists of declarations is the same if they are read as the same
trees. -/
theorem compile_of_read {trees : List (RouteTree κ)}
    (h : List.Forall₂ (fun v t => RouteTree.read v = .ok t) roots trees)
    (h' : List.Forall₂ (fun v t => RouteTree.read v = .ok t) roots' trees) :
    compile opts (.list roots') = compile opts (.list roots) := by
  simp only [compile, Value.items?, compileRoots, runRoots_of_read h, runRoots_of_read h']

/-- Whatever is compiled may spell its verbs as it likes: the trees, the table and all that is
said on the way are the same. Nor does it matter how a verb is spelt that is looked up. -/
theorem compile_respelt {table : RouteTable κ}
    (hrespells : List.Forall₂ Value.Respells roots roots')
    (hcompile : (compile opts (.list roots)).result = .ok table) :
    (∃ trees, List.Forall₂ (fun v t => RouteTree.read v = .ok t) roots trees ∧
      List.Forall₂ (fun v t => RouteTree.read v = .ok t) roots' trees) ∧
      compile opts (.list roots') = compile opts (.list roots) ∧
      ∀ path verb verb', Text.lower verb = Text.lower verb' →
        table.lookup path verb = table.lookup path verb' := by
  obtain ⟨trees, htrees⟩ := exists_read_of_compile hcompile
  have htrees' := forall₂_read_of_respells hrespells htrees
  refine ⟨⟨trees, htrees, htrees'⟩, compile_of_read htrees htrees', ?_⟩
  intro path verb verb' hverb
  rw [lookup, lookup, hverb]

/-! A ledger with a page below it. The ledger spells its verb in two ways at once, and might as
well spell it in two others. -/

def page (post post' : String) : Datum :=
  .dict [(.str "methods", .dict [(.str post, .callable "add")]),
    (.str "access", .dict [(.str post', .str "public")])]

def ledger (get get' post post' : String) : Datum :=
  .dict [(.str "url", .str "/x"),
    (.str "methods", .dict [(.str get, .callable "first"), (.str get', .callable "last")]),
    (.str "roles", .dict [(.str get', .list [.str "admin"]), (.str get, .list [.str "user"])]),
    (.str "children", .dict [(.str "y", page post post')])]

def ledgerTable : RouteTable String :=
  [⟨"/api/v1/x", "get", ⟨false, some ["user"]⟩, "last"⟩,
    ⟨"/api/v1/x/y", "post", ⟨true, none⟩, "add"⟩]

theorem compile_ledger :
    (compile ⟨"api", "v1", false⟩ (.list [ledger "GET" "get" "POST" "post"])).result =
      .ok ledgerTable := by
  have hpage : RouteTree.read (page "POST" "post") =
      .ok ⟨none, none, [("post", "add")], .everyoneFor ["post"], .anyone, []⟩ := by
    simp only [page, RouteTree.read, RouteTree.readChildrenField_eq, RouteTree.field_cons,
      Value.same_str_str, RouteTree.assemble]
    rfl
  have hchild : RouteTree.readChildren [(.str "y", page "POST" "post")] =
      .ok [("y", ⟨none, none, [("post", "add")], .everyoneFor ["post"], .anyone, []⟩)] := by
    rw [RouteTree.readChildren, hpage]
    rfl
  have hread : RouteTree.read (ledger "GET" "get" "POST" "post") =
      .ok ⟨some "/x", none, [("get", "last")], .identified, .perVerb [("get", ["user"])],
        [("y", ⟨none, none, [("post", "add")], .everyoneFor ["post"], .anyone, []⟩)]⟩ := by
    simp only [ledger, RouteTree.read, RouteTree.readChildrenField_eq, RouteTree.field_cons,
      Value.same_str_str, RouteTree.assemble]
    show (RouteTree.readChildren [(.str "y", page "POST" "post")] >>= fun children => Except.ok
      (⟨some "/x", none, [("get", "last")], .identified, .perVerb [("get", ["user"])],
        Assoc.ofList children⟩ : RouteTree String)) = _
    rw [hchild]
    rfl
  simp only [compile, Value.items?, compileRoots, runRoots, runRoot, hread]
  rfl

theorem ledger_respells :
    (ledger "GET" "get" "POST" "post").Respells (ledger "gET" "Get" "post" "Post") := by
  have hverb (verb : String) : (Value.str (κ := String) verb).verb = Text.lower verb := rfl
  have hget : Text.lower "gET" = Text.lower "GET" := by decide
  have hget' : Text.lower "Get" = Text.lower "get" := by decide
  have hpost : Text.lower "post" = Text.lower "POST" := by decide
  have hpost' : Text.lower "Post" = Text.lower "post" := by decide
  have hpage : (page "POST" "post").Respells (page "post" "Post") := by
    refine .node (.verbs (by decide) ?_ (.verbs (by decide) ?_ .nil))
    · simp only [Value.verbMembers, List.map_cons, List.map_nil, hverb, hpost]
    · simp only [Value.verbMembers, List.map_cons, List.map_nil, hverb, hpost']
  refine .node (.same _ (.verbs (by decide) ?_ (.verbs (by decide) ?_
    (.children (.cons _ hpage .nil) .nil))))
  · simp only [Value.verbMembers, List.map_cons, List.map_nil, hverb, hget, hget']
  · simp only [Value.verbMembers, List.map_cons, List.map_nil, hverb, hget, hget']

/-- Of two handlers for a verb the last one counts, and so does the last of two lists of roles,
however they are spelt. -/
theorem ledger_respelt :
    List.Forall₂ Value.Respells [ledger "GET" "get" "POST" "post"]
        [ledger "gET" "Get" "post" "Post"] ∧
      (compile ⟨"api", "v1", false⟩ (.list [ledger "GET" "get" "POST" "post"])).result =
        .ok ledgerTable ∧
      (compile ⟨"api", "v1", false⟩ (.list [ledger "gET" "Get" "post" "Post"])).result =
        .ok ledgerTable ∧
      ledgerTable.lookup "/api/v1/x/y" "pOsT" = ledgerTable.lookup "/api/v1/x/y" "POST" := by
  have hrespells : List.Forall₂ Value.Respells [ledger "GET" "get" "POST" "post"]
      [ledger "gET" "Get" "post" "Post"] := .cons ledger_respells .nil
  obtain ⟨-, hsame, hlookup⟩ := compile_respelt hrespells compile_ledger
  refine ⟨hrespells, compile_ledger, ?_, hlookup "/api/v1/x/y" "pOsT" "POST" (by decide)⟩
  rw [hsame, compile_ledger]

end RouteTable

end Gatehouse
