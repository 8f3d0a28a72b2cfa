import Gatehouse.Proofs.KeptSession
import Gatehouse.Proofs.OneRequest
import Gatehouse.Proofs.TableScan

/-!
# Which entry a request runs

What the router does with the places of an application, and what the gate does with a
routed request, are put together here: a request runs the endpoint of the first entry
that answers it, and runs nothing if there is none. It runs nothing either if it breaks off
on the way, because its session cannot be read or because a place in front of the entry,
or the entry itself, finds a number in the path that cannot be read.

Where no path has a parameter, one might expect more, namely that every entry which is
not a repetition runs for the request it is declared for, as the table says that looks
entries up by path and verb. That is not so. An entry answers more requests than the
one it is declared for: those with a slash behind the path, those with HEAD where the
verb is GET, and those whose verb is spelled in other letters with the same capitals.
An earlier entry may take any of these away from a later one, and with the request goes
the policy. `shadowing` is such a pair of trees. What is true is that an entry runs for
its own request just if none of the entries before it clashes with it in this way.
-/

namespace Gatehouse

open Http

variable {app : Application} {moment : Moment} {st : Standing} {r : Request}

namespace Application

theorem create_result_eq_ok_iff {settings : Settings} {verifier : Option (Int → Gate.Verifier)}
    {framework : Framework} {views : Value Handler} :
    (create settings verifier framework views).result = .ok app ↔
      (RouteTable.compile (compileOptions settings) views).result = .ok app.table ∧
        settings.name.isEmpty = false ∧ (Router.mount app.table).result = .ok app.places ∧
        app.settings = settings ∧
        app.verifier = verifier.getD (tokenVerifier (tokenConfig framework.tokens settings)) ∧
        app.framework = framework := by
  simp only [create]
  constructor
  · intro h
    split at h
    · cases h
    · next table htable =>
        split at h
        · cases h
        · next hname =>
            split at h
            · cases h
            · next places hplaces =>
                injection h with h
                subst h
                exact ⟨htable, Bool.eq_false_iff.mpr hname, hplaces, rfl, rfl, rfl⟩
  · rintro ⟨htable, hname, hplaces, hsettings, hverifier, hframework⟩
    obtain ⟨settings', verifier', framework', table, places⟩ := app
    simp only at htable hplaces hsettings hverifier hframework
    subst hsettings hverifier hframework
    simp only [htable, hname, hplaces, Bool.false_eq_true, ↓reduceIte]

/-! ## Two trees that meet

The first tree is open and mounted at a path, the second one asks for a token and is
mounted where the first one answers as well, with a slash behind the same path. -/

def opening : RouteEntry Handler := ⟨"/api/v1/x", "get", ⟨true, none⟩, .naming "opens"⟩

def closing : RouteEntry Handler := ⟨"/api/v1/x/", "get", ⟨false, none⟩, .naming "closes"⟩

/-- The trees that declare the two entries. -/
def shadowing : List (RouteTree Handler) :=
  [⟨some "/x", none, [("get", .naming "opens")], .everyone, .anyone, []⟩,
    ⟨some "/x/", none, [("get", .naming "closes")], .identified, .anyone, []⟩]

/-- The application of the two trees; no token is worth anything to it. -/
def shadowed : Application :=
  ⟨{ rateLimitEnabled := false }, fun _ _ => .ok .invalid, .bare, [opening, closing],
    (Router.mount [opening, closing]).result.toOption.getD []⟩

/-- A request for a path that brings nothing along. -/
def asking (path : String) : Request := ⟨"GET", path, "", [], "", none, none⟩

theorem shadowed_no_brace : ∀ e ∈ shadowed.table, '{' ∉ e.path.toList := by decide

theorem mount_shadowed : (Router.mount shadowed.table).result = .ok shadowed.places :=
  Router.mount_result_of_no_brace shadowed_no_brace

theorem shadowed_readable (method path : String) :
    Router.stumbles method path shadowed.places = false :=
  Router.stumbles_of_not_balksAt
    (Router.not_balksAt_of_no_brace mount_shadowed shadowed_no_brace path) method

theorem create_shadowed :
    (create { rateLimitEnabled := false } (some fun _ _ => .ok .invalid) .bare
      (.list (shadowing.map .tree))).result = .ok shadowed :=
  create_result_eq_ok_iff.mpr ⟨rfl, rfl, mount_shadowed, rfl, rfl, rfl⟩

theorem opening_answers : opening.answers "GET" "/api/v1/x/" = true := by
  have hclash : opening.Clashes closing :=
    ⟨by decide, Or.inr (Or.inr ⟨by decide, Or.inl (by decide)⟩)⟩
  exact (RouteEntry.answers_iff_clashes (by decide) closing).mpr hclash

theorem load_asking (path : String) (moment : Moment) :
    shadowed.load (second moment.now) (asking path) = some ⟨.ofEntries [], false⟩ := rfl

/-! ## The first entry that answers -/

section Answering

variable (hmount : (Router.mount app.table).result = .ok app.places)
  (hfree : app.settings.rateLimitEnabled = false) (hquestion : Cors.question? r = none)

include hmount hfree hquestion

theorem runsEndpoint_of_find? {e : RouteEntry Handler} {a : SessionCookie.Arrival}
    (hpage : Pages.answers r.method r.path = false)
    (hreadable : Router.stumbles r.method r.path app.places = false)
    (hload : app.load (second moment.now) r = some a)
    (hfind : (app.table.find? fun e => e.answers r.method r.path) = some e) :
    Exchange.RunsEndpoint app moment st r a.session e := by
  have hentry : Router.answering? app.places r.method r.path = some e := by
    rw [Router.answering?_mount hmount, hfind]
  obtain ⟨m, params, hplace, rfl⟩ := Router.destination_of_answering? hpage hreadable hentry
  exact Exchange.runsEndpoint_of_place st hfree hquestion hload hplace

end Answering

def counting : RouteEntry Handler :=
  ⟨"/api/v1/\x7bn:int\x7d", "get", ⟨true, none⟩, .naming "counts"⟩

def numberPattern : PathPattern := "/api/v1/".toList.map .literal ++ [.param "n" .whole]

/-- The places of the route. -/
def numberPlaces : List (Mounted Handler) :=
  [⟨counting.path, numberPattern, counting.methods, counting.operationId, true, counting⟩,
    ⟨counting.path ++ "/", numberPattern ++ [.literal '/'], counting.methods,
      counting.operationId ++ "_slash", false, counting⟩]

/-- The application of this route. -/
def numbering : Application :=
  ⟨{ rateLimitEnabled := false }, fun _ _ => .ok .invalid, .bare, [counting], numberPlaces⟩

def longPath : String :=
  String.ofList ("/api/v1/".toList ++ List.replicate (IntegerText.maxDigits + 1) '0')

theorem ofPath_counting : PathPattern.ofPath counting.path = .ok numberPattern := by
  decide +kernel

theorem ofPath_counting_slash :
    PathPattern.ofPath (counting.path ++ "/") = .ok (numberPattern ++ [.literal '/']) := by
  decide +kernel

theorem mount_numbering : (Router.mount numbering.table).result = .ok numbering.places := by
  have hplaces : Mounted.places counting = .ok numberPlaces := by
    simp only [Mounted.places, Mounted.ofEntry, ofPath_counting, ofPath_counting_slash]
    rfl
  change (Router.mountFrom [] [] [counting]).result = .ok numberPlaces
  rw [Router.mountFrom, hplaces]
  rfl

theorem balksAt_longPath : numberPattern.balksAt longPath = true := by
  refine PathPattern.balksAt_of_long_number (fun d hd => ?_) ?_
  · rw [List.eq_of_mem_replicate hd]
    rfl
  · rw [List.length_replicate]
    exact Nat.lt_succ_self _

theorem counting_answers_longPath : counting.answers "GET" longPath = true := by
  have hbalks := balksAt_longPath
  rw [PathPattern.balksAt, Bool.and_eq_true] at hbalks
  rw [RouteEntry.answers, PathPattern.fits, ofPath_counting]
  simp only [hbalks.1, Bool.true_or, Bool.and_true]
  rfl

end Application

/-! ## Looking up and running -/

/-- The entries in front of the one that is looked up for a path and a verb. -/
def RouteTable.ahead {κ : Type} (t : RouteTable κ) (path verb : String) : RouteTable κ :=
  t.takeWhile fun e => !(e.path = path && e.verb = Text.lower verb)

theorem RouteTable.eq_ahead_append {κ : Type} {t : RouteTable κ} {path verb : String}
    {e : RouteEntry κ} (h : t.lookup path verb = some e) :
    ∃ behind, t = t.ahead path verb ++ e :: behind := by
  rw [lookup, List.find?_eq_some_iff_append] at h
  obtain ⟨hsame, before, behind, rfl, hother⟩ := h
  refine ⟨behind, ?_⟩
  rw [ahead, List.takeWhile_append_of_pos hother, List.takeWhile_cons_of_neg (by simp [hsame]),
    List.append_nil]

theorem RouteTable.not_mem_ahead {κ : Type} {t : RouteTable κ} {path verb : String}
    {e : RouteEntry κ} (h : t.lookup path verb = some e) : e ∉ t.ahead path verb := by
  intro he
  have hsame := List.find?_some h
  have hother := List.all_eq_true.mp List.all_takeWhile e he
  rw [hsame] at hother
  cases hother

namespace Application

/-- Where no path has a brace, an entry that is looked up runs for the request it is
declared for just if none of the entries ahead of it clashes with it. -/
theorem runs_lookup_iff (hmount : (Router.mount app.table).result = .ok app.places)
    (hfree : app.settings.rateLimitEnabled = false) (hquestion : Cors.question? r = none)
    (hpage : Pages.answers r.method r.path = false) {a : SessionCookie.Arrival}
    (hload : app.load (second moment.now) r = some a)
    (hbrace : ∀ e ∈ app.table, '{' ∉ e.path.toList) {e : RouteEntry Handler}
    (hlookup : app.table.lookup e.path e.verb = some e)
    (hmethod : r.method = Text.upper e.verb) (hpath : r.path = e.path) (st : Standing) :
    Exchange.RunsEndpoint app moment st r a.session e ↔
      ∀ e' ∈ app.table.ahead e.path e.verb, ¬ e'.Clashes e := by
  obtain ⟨behind, htable⟩ := RouteTable.eq_ahead_append hlookup
  have hahead : ∀ e' ∈ app.table.ahead e.path e.verb,
      (e'.answers r.method r.path ↔ e'.Clashes e) := by
    intro e' he'
    have hmem : e' ∈ app.table := by
      rw [htable]
      exact List.mem_append_left _ he'
    rw [hmethod, hpath]
    exact RouteEntry.answers_iff_clashes (hbrace e' hmem) e
  have hreadable : Router.stumbles r.method r.path app.places = false :=
    Router.stumbles_of_not_balksAt (Router.not_balksAt_of_no_brace hmount hbrace r.path) _
  constructor
  · intro hruns e' he' hclash
    -- the first entry ahead that answers would run instead, and it is another one
    cases hfirst : (app.table.ahead e.path e.verb).find? fun e => e.answers r.method r.path with
    | none => exact List.find?_eq_none.mp hfirst e' he' ((hahead e' he').mpr hclash)
    | some f =>
        have hfind : (app.table.find? fun e => e.answers r.method r.path) = some f := by
          rw [htable, List.find?_append, hfirst]
          rfl
        have hsame : e = f :=
          hruns.eq (runsEndpoint_of_find? hmount hfree hquestion hpage hreadable hload hfind)
        have hmem := List.mem_of_find?_eq_some hfirst
        rw [← hsame] at hmem
        exact RouteTable.not_mem_ahead hlookup hmem
  · intro hnone
    refine runsEndpoint_of_find? hmount hfree hquestion hpage hreadable hload ?_
    have hfirst : ((app.table.ahead e.path e.verb).find? fun e =>
        e.answers r.method r.path) = none := by
      rw [List.find?_eq_none]
      exact fun e' he' hanswers => hnone e' he' ((hahead e' he').mp hanswers)
    have hself : e.answers r.method r.path = true := by
      rw [hmethod, hpath, RouteEntry.answers_iff_clashes]
      · exact e.clashes_self
      · refine hbrace e ?_
        rw [htable]
        exact List.mem_append_right _ List.mem_cons_self
    rw [htable, List.find?_append, hfirst, List.find?_cons, hself]
    rfl

theorem shadowed_runs_lookup :
    shadowed.table.lookup opening.path opening.verb = some opening ∧
      shadowed.table.ahead opening.path opening.verb = [] ∧
      ∀ moment st, Exchange.RunsEndpoint shadowed moment st (asking "/api/v1/x")
        (.ofEntries []) opening := by
  refine ⟨rfl, rfl, fun moment st => ?_⟩
  exact (runs_lookup_iff (r := asking "/api/v1/x") (e := opening) mount_shadowed rfl rfl rfl
    (load_asking "/api/v1/x" moment) shadowed_no_brace rfl rfl rfl st).mpr
    fun e' he' => absurd he' List.not_mem_nil

/-- An entry that is looked up for its path and verb, and is no repetition, need not run
for the request it is declared for: here the open entry runs in place of the one that
asks for a token. -/
theorem shadowed_not_run :
    (create { rateLimitEnabled := false } (some fun _ _ => .ok .invalid) .bare
        (.list (shadowing.map .tree))).result = .ok shadowed ∧
      shadowed.settings.rateLimitEnabled = false ∧
      (∀ e ∈ shadowed.table, '{' ∉ e.path.toList ∧ '}' ∉ e.path.toList) ∧
      shadowed.table.lookup closing.path closing.verb = some closing ∧
      (asking "/api/v1/x/").method = Text.upper closing.verb ∧
      (asking "/api/v1/x/").path = closing.path ∧
      Cors.question? (asking "/api/v1/x/") = none ∧
      ∀ moment st,
        (∀ session,
          ¬ Exchange.RunsEndpoint shadowed moment st (asking "/api/v1/x/") session closing) ∧
        (Exchange.serve shadowed moment st (asking "/api/v1/x/")).2.calls = [("opens", none)] := by
  refine ⟨create_shadowed, rfl, by decide, rfl, rfl, rfl, rfl, fun moment st => ?_⟩
  have hruns : Exchange.RunsEndpoint shadowed moment st (asking "/api/v1/x/")
      (.ofEntries []) opening :=
    runsEndpoint_of_find? (r := asking "/api/v1/x/") mount_shadowed rfl rfl rfl
      (shadowed_readable "GET" "/api/v1/x/") (load_asking "/api/v1/x/" moment)
      (List.find?_cons_of_pos opening_answers)
  refine ⟨fun session hclosing => ?_, hruns.calls⟩
  have hpath : opening.path = closing.path := congrArg RouteEntry.path (hruns.eq hclosing)
  exact absurd hpath (by decide)

end Application

end Gatehouse
