import Gatehouse.Http.Router
import Gatehouse.Outcome
import Gatehouse.Route.Compile

/-!
# Routing is one scan of the table

Mounting turns each entry into one place or two, so the list that the router goes
through is longer than the table, and the twin of one entry stands in front of the
next entry's own place. None of that shows in what is found: whichever of the two
places fits, it belongs to the same entry, so the first place that answers a request
belongs to the first entry of the table that does. `answering?_mount` says so.

Paths without braces are patterns of single characters. They match themselves and
nothing else but themselves with one line break more, and so which entry answers can
be read off the paths.
-/

namespace Gatehouse

open Http

variable {κ : Type}

/-! ## What answers a request -/

/-- Whether `asked` matches the pattern that `path` denotes. -/
def Http.PathPattern.fits (path asked : String) : Bool :=
  match PathPattern.ofPath path with
  | .ok p => p.covers asked
  | .error _ => false

/-- Whether an entry answers a method and a path: as it is declared, or with a slash
behind it. -/
def RouteEntry.answers (e : RouteEntry κ) (method path : String) : Bool :=
  e.methods.contains method &&
    (PathPattern.fits e.path path ||
      (!Text.endsWith "/" e.path && PathPattern.fits (e.path ++ "/") path))

namespace Http

/-- The entry of the first place that answers. -/
def Router.answering? (places : List (Mounted κ)) (method path : String) :
    Option (RouteEntry κ) :=
  (Router.find? places method path).map (·.entry)

theorem Mounted.ofEntry_eq_ok {e : RouteEntry κ} {path name : String} {listed : Bool}
    {m : Mounted κ} (h : Mounted.ofEntry e path name listed = .ok m) :
    ∃ p, PathPattern.ofPath path = .ok p ∧ m = ⟨path, p, e.methods, name, listed, e⟩ := by
  rw [Mounted.ofEntry] at h
  cases hp : PathPattern.ofPath path with
  | error why => rw [hp] at h; cases h
  | ok p =>
      rw [hp] at h
      injection h with h
      exact ⟨p, rfl, h.symm⟩

theorem Mounted.hasPath_of_ofEntry {e : RouteEntry κ} {path name : String} {listed : Bool}
    {m : Mounted κ} (h : Mounted.ofEntry e path name listed = .ok m) (asked : String) :
    m.hasPath asked = PathPattern.fits path asked := by
  obtain ⟨p, hp, rfl⟩ := Mounted.ofEntry_eq_ok h
  rw [PathPattern.fits, hp]
  rfl

theorem Mounted.answers_of_ofEntry {e : RouteEntry κ} {path name : String} {listed : Bool}
    {m : Mounted κ} (h : Mounted.ofEntry e path name listed = .ok m)
    (method asked : String) :
    m.entry = e ∧ m.answers method asked =
      (e.methods.contains method && PathPattern.fits path asked) := by
  rw [Mounted.answers, Mounted.hasPath_of_ofEntry h]
  obtain ⟨p, -, rfl⟩ := Mounted.ofEntry_eq_ok h
  exact ⟨rfl, rfl⟩

namespace Router

theorem answering?_nil (method path : String) :
    answering? ([] : List (Mounted κ)) method path = none := rfl

theorem answering?_cons (m : Mounted κ) (rest : List (Mounted κ)) (method path : String) :
    answering? (m :: rest) method path =
      if m.answers method path then some m.entry else answering? rest method path := by
  rw [answering?, find?, List.find?_cons]
  cases m.answers method path with
  | true => rfl
  | false => rfl

theorem answering?_append (before behind : List (Mounted κ)) (method path : String) :
    answering? (before ++ behind) method path =
      (answering? before method path).or (answering? behind method path) := by
  rw [answering?, find?, List.find?_append]
  exact Option.map_or

theorem answering?_places_of_entry {e : RouteEntry κ} {ps : List (Mounted κ)}
    (h : Mounted.places e = .ok ps) (method path : String) :
    answering? ps method path = if e.answers method path then some e else none := by
  rw [Mounted.places] at h
  cases hown : Mounted.ofEntry e e.path e.operationId true with
  | error why => rw [hown] at h; cases h
  | ok own =>
      obtain ⟨hentry, hsome⟩ := Mounted.answers_of_ofEntry hown method path
      rw [hown] at h
      simp only [bind, Except.bind, pure, Except.pure] at h
      split at h
      · next hslash =>
          injection h with h
          subst h
          rw [answering?_cons, answering?_nil, hsome, hentry, RouteEntry.answers, hslash,
            Bool.not_true, Bool.false_and, Bool.or_false]
      · next hslash =>
          cases htwin : Mounted.ofEntry e (e.path ++ "/") (e.operationId ++ "_slash") false with
          | error why => rw [htwin] at h; cases h
          | ok twin =>
              obtain ⟨hentry', hsome'⟩ := Mounted.answers_of_ofEntry htwin method path
              rw [htwin] at h
              injection h with h
              subst h
              rw [answering?_cons, answering?_cons, answering?_nil, hsome, hsome', hentry, hentry',
                RouteEntry.answers, Bool.eq_false_iff.mpr hslash, Bool.not_false,
                Bool.true_and, Bool.and_or_distrib_left]
              cases e.methods.contains method && PathPattern.fits e.path path <;> simp

theorem answering?_mountFrom {table : RouteTable κ} {before places : List (Mounted κ)}
    {logs : List LogEntry} (h : (mountFrom before logs table).result = .ok places)
    (method path : String) :
    answering? places method path =
      (answering? before method path).or (table.find? fun e => e.answers method path) := by
  induction table generalizing before logs with
  | nil =>
      rw [mountFrom] at h
      injection h with h
      rw [h, List.find?_nil, Option.or_none]
  | cons e rest ih =>
      rw [mountFrom] at h
      cases hps : Mounted.places e with
      | error why => rw [hps] at h; cases h
      | ok ps =>
          rw [hps] at h
          rw [ih h, answering?_append, answering?_places_of_entry hps, List.find?_cons,
            Option.or_assoc]
          cases e.answers method path <;> rfl

/-- The first place that answers belongs to the first entry that does. -/
theorem answering?_mount {table : RouteTable κ} {places : List (Mounted κ)}
    (h : (mount table).result = .ok places) (method path : String) :
    answering? places method path = table.find? fun e => e.answers method path := by
  rw [answering?_mountFrom h, answering?_nil, Option.none_or]

theorem find?_isSome_of_answering? {places : List (Mounted κ)} {method path : String}
    {e : RouteEntry κ} (h : answering? places method path = some e) :
    (find? places method path).isSome = true := by
  obtain ⟨place, hfind, -⟩ := Option.map_eq_some_iff.mp h
  exact Option.isSome_of_eq_some hfind

theorem answers_of_find? {places : List (Mounted κ)} {method path : String}
    (h : (find? places method path).isSome = true) : answers places method path = true := by
  rw [answers, h, Bool.or_true]

/-- A place that the search comes to has values for all of its parameters. -/
theorem values?_isSome_of_find? {places : List (Mounted κ)} {method path : String}
    {m : Mounted κ} (hfind : find? places method path = some m)
    (hreadable : stumbles method path places = false) :
    (m.pattern.values? path).isSome = true := by
  induction places with
  | nil => cases hfind
  | cons m' rest ih =>
      rw [stumbles, Bool.or_eq_false_iff] at hreadable
      obtain ⟨hbalks, hrest⟩ := hreadable
      rw [find?, List.find?_cons] at hfind
      cases hanswers : m'.answers method path with
      | true =>
          rw [hanswers] at hfind
          obtain rfl := Option.some.inj hfind
          have hcovers : m'.pattern.covers path = true := (Bool.and_eq_true_iff.mp hanswers).2
          rw [Mounted.balksAt, PathPattern.balksAt, hcovers, Bool.true_and] at hbalks
          rw [← Option.not_isNone, hbalks]
          rfl
      | false =>
          rw [hanswers] at hfind hrest
          exact ih hfind hrest

/-- Where every place can read the path, the search is stopped by none. -/
theorem stumbles_of_not_balksAt {places : List (Mounted κ)} {path : String}
    (h : balksAt places path = false) (method : String) :
    stumbles method path places = false := by
  induction places with
  | nil => rfl
  | cons m rest ih =>
      rw [balksAt, List.any_cons, Bool.or_eq_false_iff] at h
      rw [stumbles, h.1, ih h.2, Bool.and_false]
      rfl

theorem destination_of_answering? {places : List (Mounted κ)} {r : Request} {e : RouteEntry κ}
    (hpage : Pages.answers r.method r.path = false)
    (hreadable : stumbles r.method r.path places = false)
    (h : answering? places r.method r.path = some e) :
    ∃ m params, destination places r = .place m params ∧ m.entry = e := by
  obtain ⟨m, hfind, hentry⟩ := Option.map_eq_some_iff.mp h
  obtain ⟨params, hparams⟩ :=
    Option.isSome_iff_exists.mp (values?_isSome_of_find? hfind hreadable)
  refine ⟨m, params, ?_, hentry⟩
  rw [destination, hpage, hreadable, if_neg Bool.false_ne_true, if_neg Bool.false_ne_true, hfind]
  simp only [hparams]

/-- What leads to a place. -/
theorem destination_eq_place {places : List (Mounted κ)} {r : Request} {m : Mounted κ}
    {params : List (String × Datum)} (h : destination places r = .place m params) :
    Pages.answers r.method r.path = false ∧ stumbles r.method r.path places = false ∧
      find? places r.method r.path = some m ∧ m.pattern.values? r.path = some params := by
  rw [destination] at h
  split at h
  · cases h
  · next hpage =>
      split at h
      · cases h
      · next hreadable =>
          split at h
          · next m' hfind =>
              split at h
              · next params' hparams =>
                  injection h with hm hvalues
                  subst hm hvalues
                  exact ⟨Bool.eq_false_iff.mpr hpage, Bool.eq_false_iff.mpr hreadable, hfind,
                    hparams⟩
              · cases h
          · split at h
            · cases h
            · rw [aside] at h
              split at h
              · cases h
              · split at h
                · split at h <;> cases h
                · cases h

/-- A request that is stopped by a number, where every place can read its path, is one that
nothing answers: what cannot be read is the path beside it. -/
theorem not_answers_of_unreadable {places : List (Mounted κ)} {r : Request}
    (h : destination places r = .unreadable) (hreadable : balksAt places r.path = false) :
    answers places r.method r.path = false := by
  have hpassed := stumbles_of_not_balksAt hreadable r.method
  cases hpage : Pages.answers r.method r.path with
  | true =>
      rw [destination, if_pos hpage] at h
      cases h
  | false =>
      cases hentry : answering? places r.method r.path with
      | some e =>
          obtain ⟨m, params, hplace, -⟩ := destination_of_answering? hpage hpassed hentry
          rw [h] at hplace
          cases hplace
      | none => rw [answers, hpage, Option.map_eq_none_iff.mp hentry]; rfl

theorem answering?_of_destination {places : List (Mounted κ)} {r : Request} {m : Mounted κ}
    {params : List (String × Datum)} (h : destination places r = .place m params) :
    answering? places r.method r.path = some m.entry := by
  obtain ⟨-, -, hfind, -⟩ := destination_eq_place h
  rw [answering?, hfind]
  rfl

end Router

end Http

namespace Http.PathPattern

theorem partsUpTo_of_no_brace {cs : List Char} {n : Nat} (hn : cs.length ≤ n)
    (hbrace : '{' ∉ cs) : partsUpTo n cs = .ok (cs.map .literal) := by
  induction cs generalizing n with
  | nil => cases n <;> rfl
  | cons c rest ih =>
      obtain ⟨k, rfl⟩ : ∃ k, n = k + 1 := ⟨n - 1, by rw [List.length_cons] at hn; omega⟩
      rw [List.mem_cons, not_or] at hbrace
      have hrest : partsUpTo k rest = .ok (rest.map .literal) :=
        ih (Nat.le_of_succ_le_succ hn) hbrace.2
      rw [partsUpTo, if_neg (Ne.symm hbrace.1)]
      simp only [hrest]
      rfl

theorem ofPath_of_no_brace {path : String} (hbrace : '{' ∉ path.toList) :
    ofPath path = .ok (path.toList.map .literal) := by
  have hnames : paramNames (path.toList.map .literal) = [] := by
    rw [paramNames, List.filterMap_map]
    exact List.filterMap_eq_nil_iff.mpr fun _ _ => rfl
  have hrepeated : repeated [] = [] := by simp [repeated]
  simp only [ofPath, partsUpTo_of_no_brace (Nat.le_refl _) hbrace, bind, Except.bind, hnames,
    hrepeated]
  rfl

theorem matchFrom_literal (cs asked : List Char) :
    matchFrom (cs.map .literal) asked =
      if asked = cs ∨ asked = cs ++ ['\n'] then some [] else none := by
  induction cs generalizing asked with
  | nil =>
      rw [List.map_nil, matchFrom]
      cases asked with
      | nil => simp
      | cons d rest => simp
  | cons c cs ih =>
      cases asked with
      | nil => simp [matchFrom]
      | cons d rest =>
          rw [List.map_cons, matchFrom]
          by_cases hsame : c = d
          · rw [if_pos hsame, ih, hsame]
            simp
          · have hne : d ≠ c := Ne.symm hsame
            rw [if_neg hsame, if_neg]
            simp [hne]

/-- Characters hold no numbers. -/
theorem not_balksAt_literal (cs : List Char) (path : String) :
    balksAt (cs.map .literal) path = false := by
  rw [balksAt, covers, values?, matchFrom_literal]
  split
  · rfl
  · rfl

/-- A run that takes the whole text is tried first. -/
theorem head?_cuts {p : Char → Bool} {cs : List Char} (hne : cs ≠ [])
    (hall : ∀ c ∈ cs, p c = true) :
    (cuts p cs).head? = some (cs, []) := by
  induction cs with
  | nil => exact absurd rfl hne
  | cons c rest ih =>
      rw [cuts, if_pos (hall c List.mem_cons_self)]
      cases rest with
      | nil => rfl
      | cons d rest =>
          rw [List.head?_append, List.head?_map,
            ih (List.cons_ne_nil _ _) fun c' hc' => hall c' (List.mem_cons_of_mem _ hc')]
          rfl

theorem matchFrom_literal_append (cs asked : List Char) (parts : PathPattern) :
    matchFrom (cs.map .literal ++ parts) (cs ++ asked) = matchFrom parts asked := by
  induction cs with
  | nil => rfl
  | cons c cs ih =>
      rw [List.map_cons, List.cons_append, List.cons_append, matchFrom, if_pos rfl]
      exact ih

theorem matchFrom_whole {name : String} {ds : List Char} (hne : ds ≠ [])
    (hdigits : ∀ d ∈ ds, isDigit d = true) :
    matchFrom [.param name .whole] ds = some [(name, .whole, ds)] := by
  rw [matchFrom, pieces]
  cases hcuts : cuts isDigit ds with
  | nil =>
      have hhead := head?_cuts hne hdigits
      rw [hcuts] at hhead
      cases hhead
  | cons cut _ =>
      have hhead := head?_cuts hne hdigits
      rw [hcuts] at hhead
      obtain rfl := Option.some.inj hhead
      rfl

/-- A number of too many digits at the end of a path is found, but not read. -/
theorem balksAt_of_long_number {cs ds : List Char} {name : String}
    (hdigits : ∀ d ∈ ds, isDigit d = true) (hlong : IntegerText.maxDigits < ds.length) :
    balksAt (cs.map .literal ++ [.param name .whole]) (String.ofList (cs ++ ds)) = true := by
  have hne : ds ≠ [] := fun hnil => by rw [hnil] at hlong; cases hlong
  have hvalue : pieceValue? .whole ds = none := if_pos hlong
  rw [balksAt, covers, values?, String.toList_ofList, matchFrom_literal_append,
    matchFrom_whole hne hdigits, Option.bind_some, List.mapM_cons]
  simp only [hvalue]
  rfl

theorem fits_of_no_brace {path : String} (hbrace : '{' ∉ path.toList) (asked : String) :
    fits path asked ↔ asked = path ∨ asked = path ++ "\n" := by
  simp only [fits, ofPath_of_no_brace hbrace, covers, matchFrom_literal, Option.isSome_ite]
  rw [← String.toList_inj, ← String.toList_inj, String.toList_append]
  rfl

end Http.PathPattern

theorem not_mem_append_slash {path : String} (hbrace : '{' ∉ path.toList) :
    '{' ∉ (path ++ "/").toList := by
  rw [String.toList_append, List.mem_append, not_or]
  exact ⟨hbrace, by decide⟩

/-- The places of an entry whose path has no brace. -/
def Http.Mounted.plainPlaces (e : RouteEntry κ) : List (Mounted κ) :=
  let own : Mounted κ := ⟨e.path, e.path.toList.map .literal, e.methods, e.operationId, true, e⟩
  if Text.endsWith "/" e.path then [own]
  else
    [own, ⟨e.path ++ "/", (e.path ++ "/").toList.map .literal, e.methods,
      e.operationId ++ "_slash", false, e⟩]

theorem Http.Mounted.places_eq_plainPlaces {e : RouteEntry κ} (hbrace : '{' ∉ e.path.toList) :
    Mounted.places e = .ok (plainPlaces e) := by
  simp only [Mounted.places, Mounted.ofEntry, PathPattern.ofPath_of_no_brace hbrace,
    PathPattern.ofPath_of_no_brace (not_mem_append_slash hbrace), plainPlaces]
  split <;> rfl

/-- A place is mounted at the path of its entry or behind the slash that is added to it. -/
theorem Http.Mounted.eq_of_mem_places {e : RouteEntry κ} {ps : List (Mounted κ)} {m : Mounted κ}
    (h : Mounted.places e = .ok ps) (hm : m ∈ ps) :
    ∃ path name listed, (path = e.path ∨ path = e.path ++ "/") ∧
      Mounted.ofEntry e path name listed = .ok m := by
  rw [Mounted.places] at h
  obtain ⟨own, hown, h⟩ := exists_of_bind_eq_ok h
  split at h
  · injection h with h
    rw [← h, List.mem_singleton] at hm
    exact ⟨_, _, _, Or.inl rfl, hm ▸ hown⟩
  · obtain ⟨twin, htwin, h⟩ := exists_of_bind_eq_ok h
    injection h with h
    rw [← h, List.mem_cons, List.mem_singleton] at hm
    rcases hm with rfl | rfl
    · exact ⟨_, _, _, Or.inl rfl, hown⟩
    · exact ⟨_, _, _, Or.inr rfl, htwin⟩

theorem Http.Router.mem_mountFrom {table : RouteTable κ} {before places : List (Mounted κ)}
    {logs : List LogEntry} {m : Mounted κ} (h : (mountFrom before logs table).result = .ok places)
    (hm : m ∈ places) :
    m ∈ before ∨ ∃ e ∈ table, ∃ path name listed, (path = e.path ∨ path = e.path ++ "/") ∧
      Mounted.ofEntry e path name listed = .ok m := by
  induction table generalizing before logs with
  | nil =>
      rw [mountFrom] at h
      injection h with h
      exact Or.inl (h ▸ hm)
  | cons e rest ih =>
      rw [mountFrom] at h
      cases hps : Mounted.places e with
      | error why => rw [hps] at h; cases h
      | ok ps =>
          rw [hps] at h
          rcases ih h with hbefore | ⟨e', he', hplace⟩
          · rcases List.mem_append.mp hbefore with hbefore | hown
            · exact Or.inl hbefore
            · exact Or.inr ⟨e, List.mem_cons_self, Mounted.eq_of_mem_places hps hown⟩
          · exact Or.inr ⟨e', List.mem_cons_of_mem e he', hplace⟩

/-- Where no path has a brace, there is no number to be read. -/
theorem Http.Router.not_balksAt_of_no_brace {table : RouteTable κ} {places : List (Mounted κ)}
    (hmount : (mount table).result = .ok places) (hbrace : ∀ e ∈ table, '{' ∉ e.path.toList)
    (path : String) : balksAt places path = false := by
  rw [balksAt, List.any_eq_false]
  intro m hm
  rcases mem_mountFrom hmount hm with hnone | ⟨e, he, own, name, listed, hpath, hplace⟩
  · exact absurd hnone List.not_mem_nil
  · obtain ⟨p, hp, rfl⟩ := Mounted.ofEntry_eq_ok hplace
    have hplain : '{' ∉ own.toList := by
      rcases hpath with rfl | rfl
      · exact hbrace e he
      · exact not_mem_append_slash (hbrace e he)
    rw [PathPattern.ofPath_of_no_brace hplain] at hp
    injection hp with hp
    rw [Mounted.balksAt, ← hp, PathPattern.not_balksAt_literal]
    exact Bool.false_ne_true

theorem Http.Router.mount_of_no_brace {table : RouteTable κ}
    (hbrace : ∀ e ∈ table, '{' ∉ e.path.toList) : ∃ places, (mount table).result = .ok places := by
  rw [mount]
  generalize ([] : List (Mounted κ)) = before
  generalize ([] : List LogEntry) = logs
  induction table generalizing before logs with
  | nil => exact ⟨before, rfl⟩
  | cons e rest ih =>
      rw [mountFrom, Mounted.places_eq_plainPlaces (hbrace e List.mem_cons_self)]
      exact ih (fun e' he' => hbrace e' (List.mem_cons_of_mem _ he')) _ _

theorem Http.Router.mount_result_of_no_brace {table : RouteTable κ}
    (hbrace : ∀ e ∈ table, '{' ∉ e.path.toList) :
    (mount table).result = .ok ((mount table).result.toOption.getD []) := by
  obtain ⟨places, hplaces⟩ := mount_of_no_brace hbrace
  rw [hplaces]
  rfl

/-- Whether an entry of a path without braces answers the request that `e` is declared
for: the verbs must agree in capitals, or be GET and HEAD, and the paths must be the same,
but for the slash behind the path of `e'` and a line break at the very end. -/
def RouteEntry.Clashes (e' e : RouteEntry κ) : Prop :=
  Text.upper e.verb ∈ e'.methods ∧
    (e.path = e'.path ∨ e.path = e'.path ++ "\n" ∨
      (Text.endsWith "/" e'.path = false ∧
        (e.path = e'.path ++ "/" ∨ e.path = e'.path ++ "/" ++ "\n")))

theorem RouteEntry.answers_iff_clashes {e' : RouteEntry κ} (hbrace : '{' ∉ e'.path.toList)
    (e : RouteEntry κ) : e'.answers (Text.upper e.verb) e.path ↔ e'.Clashes e := by
  rw [answers, Clashes, Bool.and_eq_true, Bool.or_eq_true, Bool.and_eq_true,
    List.contains_iff_mem, PathPattern.fits_of_no_brace hbrace,
    PathPattern.fits_of_no_brace (not_mem_append_slash hbrace), Bool.not_eq_true', or_assoc]

theorem RouteEntry.mem_methods (e : RouteEntry κ) : Text.upper e.verb ∈ e.methods := by
  rw [methods]
  split <;> exact List.mem_cons_self

theorem RouteEntry.clashes_self (e : RouteEntry κ) : e.Clashes e :=
  ⟨e.mem_methods, Or.inl rfl⟩

end Gatehouse
