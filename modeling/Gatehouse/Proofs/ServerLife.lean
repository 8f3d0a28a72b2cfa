import Gatehouse.Life
import Gatehouse.Outcome
import Gatehouse.Server
import Gatehouse.Views

/-!
# The life of a service process

A process is asked for its application, started and closed in any order, and a listener may come
up, give up or fail each time. The events of its life tell what was done, and which applications
were handed out on the way (`Reached`).

Making an application depends on the settings and the routes alone, and no operation changes
these. So a process either makes the same application whenever it tries, or never makes one: that
is the invariant of all lives (`Accounts`), from which `orderly_of_reached` draws what each
operation does after any life. That no application is made twice shows in two ways: nothing is
said the second time, and the process might as well have forgotten the routes.

Failures are counted by the level of their records. Neither compiling nor mounting routes says
anything at that level, which takes an induction over the steps of the compiler.
-/

namespace Gatehouse

/-! ## What is said while an application is made -/

namespace RouteTable

variable {κ : Type} {p p' : Progress κ}

/-- What was said by the end of a run, however it ends. -/
def saidBy : Except (SpecError κ × List LogEntry) (Progress κ) → List LogEntry
  | .ok p => p.logs
  | .error (_, logs) => logs

theorem errorRecords_step {strict : Bool} {s : LayoutStep κ} (h : step strict p s = .ok p')
    (hp : errorRecords p.logs = []) : errorRecords p'.logs = [] := by
  cases s with
  | entry e =>
      injection h with h
      subst h
      rw [errorRecords_append, hp]
      split <;> rfl
  | emptyNode path | rootWithoutUrl =>
      rw [step] at h
      split at h
      · cases h
      · injection h with h
        subst h
        rw [errorRecords_append, hp]
        rfl

theorem errorRecords_runSteps (strict : Bool) (steps : List (LayoutStep κ))
    (hp : errorRecords p.logs = []) : errorRecords (saidBy (runSteps strict p steps)) = [] := by
  induction steps generalizing p with
  | nil => exact hp
  | cons s rest ih =>
      rw [runSteps]
      cases hstep : step strict p s with
      | error e => exact hp
      | ok p' => exact ih (errorRecords_step hstep hp)

theorem errorRecords_runRoot (opts : CompileOptions) (v : Value κ)
    (hp : errorRecords p.logs = []) : errorRecords (saidBy (runRoot opts p v)) = [] := by
  rw [runRoot]
  cases RouteTree.read v with
  | error e => exact hp
  | ok t => exact errorRecords_runSteps opts.strict _ hp

theorem errorRecords_runRoots (opts : CompileOptions) (roots : List (Value κ))
    (hp : errorRecords p.logs = []) : errorRecords (saidBy (runRoots opts p roots)) = [] := by
  induction roots generalizing p with
  | nil => exact hp
  | cons v rest ih =>
      rw [runRoots]
      have hroot := errorRecords_runRoot opts v hp
      cases hrun : runRoot opts p v with
      | error e =>
          rw [hrun] at hroot
          exact hroot
      | ok p' =>
          rw [hrun] at hroot
          exact ih hroot

theorem errorRecords_compileRoots (opts : CompileOptions) (roots : List (Value κ)) :
    errorRecords (compileRoots opts roots).logs = [] := by
  have hroots := errorRecords_runRoots (p := .empty) opts roots rfl
  rw [compileRoots]
  cases hrun : runRoots opts .empty roots with
  | error e =>
      rw [hrun] at hroots
      exact hroots
  | ok p =>
      rw [hrun] at hroots
      exact (errorRecords_append p.logs _).trans (congrArg (· ++ []) hroots)

theorem errorRecords_compile (opts : CompileOptions) (views : Value κ) :
    errorRecords (compile opts views).logs = [] := by
  rw [compile]
  cases views.items? with
  | none => rfl
  | some roots => exact errorRecords_compileRoots opts roots

end RouteTable

namespace Http.Router

variable {κ : Type}

theorem errorRecords_mountFrom (before : List (Mounted κ)) {logs : List LogEntry}
    (h : errorRecords logs = []) (table : RouteTable κ) :
    errorRecords (mountFrom before logs table).logs = [] := by
  induction table generalizing before logs with
  | nil => exact h
  | cons e rest ih =>
      rw [mountFrom]
      cases Mounted.places e with
      | error why => exact h
      | ok places =>
          refine ih _ ?_
          rw [errorRecords_append, h]
          rfl

end Http.Router

namespace Application

theorem errorRecords_create (settings : Settings) (verifier : Option (Int → Gate.Verifier))
    (framework : Framework) (views : Value Handler) :
    errorRecords (create settings verifier framework views).logs = [] := by
  have hcompile := RouteTable.errorRecords_compile (compileOptions settings) views
  rw [create]
  cases (RouteTable.compile (compileOptions settings) views).result with
  | error e => exact hcompile
  | ok table =>
      have hboth : errorRecords ((RouteTable.compile (compileOptions settings) views).logs ++
          (Http.Router.mount table).logs) = [] := by
        rw [errorRecords_append, hcompile, Http.Router.mount,
          Http.Router.errorRecords_mountFrom [] rfl table]
        rfl
      simp only []
      split
      · exact hcompile
      · cases hresult : (Http.Router.mount table).result with
        | error e => exact hboth
        | ok places => exact hboth

end Application

namespace Server

/-! ## Lives -/

/-- What a process can be asked for. -/
inductive Operation where
  | load
  | start (listener : Listener)
  | close
deriving DecidableEq, Repr

/-- An operation that was carried out, with the application that came out of it: the one that was
given back, or the one that a listener was given. -/
structure Event where
  operation : Operation
  app : Option Application

/-- Whether an application was handed to a listener. -/
def Event.Serves (e : Event) : Prop := e.operation ≠ .load ∧ e.app ≠ none

/-- Carries out an operation. -/
def perform (s : Server) : Operation → Event × Server
  | .load => (⟨.load, s.load.1.toOption⟩, s.load.2.1)
  | .start listener =>
    let start := s.start listener
    (⟨.start listener, start.served.map (·.app)⟩, start.server)
  | .close => (⟨.close, none⟩, s.close)

/-- `Reached settings framework views past s`: the events `past`, the last first, have brought the
process to `s`. -/
def Reached (settings : Settings) (framework : Framework) (views : List (Value Handler)) :
    List Event → Server → Prop :=
  Lived perform (.ofViews settings framework views)

/-! ## One operation -/

/-- What making the application comes to. -/
def creation (s : Server) : Application.Creation :=
  Application.create s.settings none s.framework (.list s.views)

/-- What a process says of its listener. -/
def remarks (s : Server) : Listener → List LogEntry
  | .comesUp => [s.startedLog]
  | .givesUp => []
  | .fails => [s.failedLog]

/-- What is said until there is an application. -/
def loadLogs (s : Server) : List LogEntry := if s.app.isSome then [] else s.creation.logs

/-- The application that is there is the one that would be made. -/
def Sound (s : Server) : Prop := ∀ app, s.app = some app → s.creation.result = .ok app

variable {s : Server} {app : Application} {e : Event} {past : List Event} {settings : Settings}
  {framework : Framework} {views : List (Value Handler)}

theorem sound_of_none (h : s.app = none) : s.Sound := fun app happ =>
  absurd (happ.symm.trans h) (Option.some_ne_none app)

theorem load_of_app (h : s.app = some app) : s.load = (.ok app, s, []) := by
  rw [load, h]

theorem load_of_ok (hs : s.Sound) (h : s.creation.result = .ok app) :
    s.load = (.ok app, { s with app := some app }, s.loadLogs) := by
  cases happ : s.app with
  | some app' =>
      cases h.symm.trans (hs app' happ)
      have hsame : s = { s with app := some app } := by rw [← happ]
      rw [← hsame, load_of_app happ, loadLogs, happ]
      rfl
  | none =>
      rw [creation] at h
      rw [load, loadLogs, happ]
      simp only [h]
      rfl

theorem load_of_error {e : CreateError} (hs : s.Sound) (h : s.creation.result = .error e) :
    s.app = none ∧ s.load = (.error e, s, s.creation.logs) := by
  cases happ : s.app with
  | some app => cases h.symm.trans (hs app happ)
  | none =>
      rw [creation] at h
      refine ⟨rfl, ?_⟩
      rw [load, happ]
      simp only [h]
      rfl

theorem start_of_ok (hs : s.Sound) (h : s.creation.result = .ok app) (listener : Listener) :
    s.start listener = ⟨listener = .comesUp,
      some ⟨s.settings.host, s.settings.port, s.settings.serverTimeout, app⟩,
      { s with app := some app, stopping := some false }, s.loadLogs ++ s.remarks listener⟩ := by
  rw [start, load_of_ok hs h]
  cases listener with
  | comesUp | fails => rfl
  | givesUp => rw [remarks, List.append_nil]; rfl

theorem start_of_error {e : CreateError} (hs : s.Sound) (h : s.creation.result = .error e)
    (listener : Listener) :
    s.start listener = ⟨false, none, s, s.creation.logs ++ [s.failedLog]⟩ := by
  rw [start, (load_of_error hs h).2]

/-! ## Many operations -/

/-- All that was handed out is the application that is there. -/
structure Single (past : List Event) (s : Server) : Prop where
  sound : s.Sound
  had : ∀ e ∈ past, ∀ app, e.app = some app → s.app = some app

theorem Single.hand (h : Single past s) (hmade : s.creation.result = .ok app)
    (happ : e.app = some app) (flag : Option Bool) :
    Single (e :: past) { s with app := some app, stopping := flag } where
  sound := by
    rintro _ ⟨⟩
    exact hmade
  had := by
    rw [List.forall_mem_cons, happ]
    refine ⟨fun _ hsame => hsame, fun e' he' app' hhad => ?_⟩
    have hmade' := h.sound app' (h.had e' he' app' hhad)
    rw [Except.ok.inj (hmade.symm.trans hmade')]

theorem Single.pass (h : Single past s) (hnone : e.app = none) (flag : Option Bool) :
    Single (e :: past) { s with stopping := flag } where
  sound := h.sound
  had := by
    rw [List.forall_mem_cons, hnone]
    exact ⟨fun _ happ => (Option.some_ne_none _ happ.symm).elim, h.had⟩

/-- What a flag tells of the last listener: that there was none, or whether it was asked to stop
after it had been given its work. -/
structure Flagged (past : List Event) (flag : Option Bool) : Prop where
  none_iff : flag = none ↔ ∀ e ∈ past, ¬ e.Serves
  true_iff : flag = some true ↔ (∃ e ∈ past, e.Serves) ∧
    Reaches (fun e => ¬ e.Serves) (fun e => e.operation = .close) past

variable {flag : Option Bool}

theorem flagged_nil : Flagged [] none where
  none_iff := iff_of_true rfl (List.forall_mem_nil _)
  true_iff := iff_of_false nofun fun h => not_reaches_nil h.2

theorem Flagged.pass (h : Flagged past flag) (hserves : ¬ e.Serves)
    (hclose : e.operation ≠ .close) : Flagged (e :: past) flag where
  none_iff := by
    rw [List.forall_mem_cons, h.none_iff]
    exact (and_iff_right hserves).symm
  true_iff := by
    simp only [List.mem_cons, exists_eq_or_imp, reaches_cons, hserves, hclose, false_or,
      not_false_eq_true, true_and]
    exact h.true_iff

theorem flagged_serve (hserves : e.Serves) (hclose : e.operation ≠ .close) :
    Flagged (e :: past) (some false) where
  none_iff := iff_of_false nofun fun h => h e List.mem_cons_self hserves
  true_iff := by
    rw [reaches_cons]
    exact iff_of_false nofun fun h => h.2.elim hclose fun hpass => hpass.1 hserves

theorem Flagged.close (h : Flagged past flag) (hserves : ¬ e.Serves)
    (hclose : e.operation = .close) : Flagged (e :: past) (flag.map fun _ => true) where
  none_iff := by
    rw [List.forall_mem_cons, Option.map_eq_none_iff, h.none_iff]
    exact (and_iff_right hserves).symm
  true_iff := by
    have hasked : (flag.map fun _ => true) = some true ↔ flag ≠ none := by cases flag <;> simp
    rw [hasked, Ne, h.none_iff]
    simp only [List.mem_cons, exists_eq_or_imp, reaches_cons, hserves, hclose, false_or, true_or,
      and_true, Classical.not_forall, Classical.not_not, exists_prop]

/-- What all lives keep. -/
structure Accounts (settings : Settings) (framework : Framework) (views : List (Value Handler))
    (past : List Event) (s : Server) : Prop where
  settings_eq : s.settings = settings
  framework_eq : s.framework = framework
  views_eq : s.views = views
  single : Single past s
  flagged : Flagged past s.stopping

theorem accounts_fresh (settings : Settings) (framework : Framework)
    (views : List (Value Handler)) :
    Accounts settings framework views [] (.ofViews settings framework views) where
  settings_eq := rfl
  framework_eq := rfl
  views_eq := rfl
  single := ⟨sound_of_none rfl, List.forall_mem_nil _⟩
  flagged := flagged_nil

theorem accounts_perform (h : Accounts settings framework views past s) (operation : Operation) :
    Accounts settings framework views ((s.perform operation).1 :: past)
      (s.perform operation).2 := by
  have hsound := h.single.sound
  cases operation with
  | close =>
      exact ⟨h.settings_eq, h.framework_eq, h.views_eq, h.single.pass rfl _,
        h.flagged.close (fun hserves => hserves.2 rfl) rfl⟩
  | load =>
      have hflagged (app? : Option Application) : Flagged (⟨.load, app?⟩ :: past) s.stopping :=
        h.flagged.pass (fun hserves => hserves.1 rfl) nofun
      cases hresult : s.creation.result with
      | ok app =>
          rw [perform, load_of_ok hsound hresult]
          exact ⟨h.settings_eq, h.framework_eq, h.views_eq, h.single.hand hresult rfl _, hflagged _⟩
      | error e =>
          rw [perform, (load_of_error hsound hresult).2]
          exact ⟨h.settings_eq, h.framework_eq, h.views_eq, h.single.pass rfl _, hflagged _⟩
  | start listener =>
      cases hresult : s.creation.result with
      | ok app =>
          simp only [perform, start_of_ok hsound hresult]
          exact ⟨h.settings_eq, h.framework_eq, h.views_eq, h.single.hand hresult rfl _,
            flagged_serve ⟨nofun, nofun⟩ nofun⟩
      | error e =>
          simp only [perform, start_of_error hsound hresult]
          exact ⟨h.settings_eq, h.framework_eq, h.views_eq, h.single.pass rfl _,
            h.flagged.pass (fun hserves => hserves.2 rfl) nofun⟩

theorem Reached.accounts (h : Reached settings framework views past s) :
    Accounts settings framework views past s :=
  h.keeps (accounts_fresh settings framework views) fun operation haccounts =>
    accounts_perform haccounts operation

/-! ## What each operation does after any life -/

theorem errorRecords_remarks (s : Server) (listener : Listener) :
    errorRecords (s.remarks listener) = if listener = .fails then [s.failedLog] else [] := by
  cases listener <;> rfl

theorem errorRecords_creation (s : Server) : errorRecords s.creation.logs = [] :=
  Application.errorRecords_create _ _ _ _

theorem errorRecords_loadLogs (s : Server) : errorRecords s.loadLogs = [] := by
  rw [loadLogs]
  split
  · rfl
  · exact s.errorRecords_creation

theorem errors_of_start (hs : s.Sound) (listener : Listener) :
    errorRecords (s.start listener).logs =
      if s.creation.result.isOk ∧ listener ≠ .fails then [] else [s.failedLog] := by
  cases hresult : s.creation.result with
  | error e =>
      rw [start_of_error hs hresult, errorRecords_append, s.errorRecords_creation]
      rfl
  | ok app =>
      rw [start_of_ok hs hresult, errorRecords_append, s.errorRecords_loadLogs,
        errorRecords_remarks]
      cases listener <;> rfl

theorem start_ok_iff (hs : s.Sound) (listener : Listener) :
    (s.start listener).ok = true ↔
      (∃ app, s.creation.result = .ok app) ∧ listener = .comesUp := by
  cases hresult : s.creation.result with
  | error e =>
      rw [start_of_error hs hresult]
      refine iff_of_false Bool.false_ne_true ?_
      rintro ⟨⟨app, happ⟩, -⟩
      cases happ
  | ok app =>
      rw [start_of_ok hs hresult]
      simp

/-- What may be relied on after the events `past`. -/
structure Orderly (settings : Settings) (framework : Framework) (views : List (Value Handler))
    (past : List Event) (s : Server) : Prop where
  unchanged : s.settings = settings ∧ s.framework = framework ∧ s.views = views
  /-- No two applications were ever handed out. -/
  single : ∀ e ∈ past, ∀ e' ∈ past, ∀ app app', e.app = some app → e'.app = some app' → app = app'
  /-- An application that was handed out is the one that is handed out ever after. Nothing is
  compiled again: nothing is said, and other routes would make no difference. -/
  load_kept : ∀ e ∈ past, ∀ app, e.app = some app → ∀ views,
    load { s with views := views } = (.ok app, { s with views := views }, [])
  start_kept : ∀ e ∈ past, ∀ app, e.app = some app → ∀ views listener,
    start listener { s with views := views } =
      ⟨listener = .comesUp,
        some ⟨s.settings.host, s.settings.port, s.settings.serverTimeout, app⟩,
        { s with views := views, stopping := some false }, s.remarks listener⟩
  /-- Without an application there is nothing to serve, and every attempt starts anew. -/
  refused : ∀ e, s.creation.result = .error e →
    s.app = none ∧ s.stopping = none ∧ s.load = (.error e, s, s.creation.logs) ∧
      ∀ listener, s.start listener = ⟨false, none, s, s.creation.logs ++ [s.failedLog]⟩
  uncompiled : ∀ e,
    (RouteTable.compile (Application.compileOptions settings) (.list views)).result = .error e →
      s.creation.result = .error (.spec e)
  start_ok : ∀ listener, (s.start listener).ok = true ↔
    (∃ app, s.creation.result = .ok app) ∧ listener = .comesUp
  /-- A failure is reported once, whether it is one of the routes or one of the listener. -/
  errors : ∀ listener, errorRecords (s.start listener).logs =
    if s.creation.result.isOk ∧ listener ≠ .fails then [] else [s.failedLog]
  flagged : Flagged past s.stopping
  close_served : (∃ e ∈ past, e.Serves) → s.close = { s with stopping := some true }
  close_unserved : (∀ e ∈ past, ¬ e.Serves) → s.close = s

theorem start_of_app (h : s.app = some app) (listener : Listener) :
    s.start listener = ⟨listener = .comesUp,
      some ⟨s.settings.host, s.settings.port, s.settings.serverTimeout, app⟩,
      { s with stopping := some false }, s.remarks listener⟩ := by
  rw [start, load_of_app h]
  cases listener <;> rfl

theorem unset_of_error {e : CreateError} (hsingle : Single past s)
    (hflagged : Flagged past s.stopping) (h : s.creation.result = .error e) :
    s.app = none ∧ s.stopping = none := by
  have hnone := (load_of_error hsingle.sound h).1
  refine ⟨hnone, hflagged.none_iff.mpr fun e' he' hserves => ?_⟩
  obtain ⟨app, happ⟩ := Option.ne_none_iff_exists'.mp hserves.2
  exact nomatch hnone.symm.trans (hsingle.had e' he' app happ)

theorem creation_of_compile_error {e : SpecError Handler}
    (h : (RouteTable.compile (Application.compileOptions s.settings) (.list s.views)).result =
      .error e) : s.creation.result = .error (.spec e) := by
  rw [creation, Application.create]
  simp only [h]

theorem close_of_ne_none (h : s.stopping ≠ none) : s.close = { s with stopping := some true } := by
  obtain ⟨flag, hflag⟩ := Option.ne_none_iff_exists'.mp h
  rw [close, hflag]
  rfl

theorem close_of_none (h : s.stopping = none) : s.close = s := by
  rw [close, h, Option.map_none, ← h]

/-- After any life, with the listener failing whenever it may, a process does what may be relied
on. -/
theorem orderly_of_reached (h : Reached settings framework views past s) :
    Orderly settings framework views past s := by
  obtain ⟨rfl, rfl, rfl, hsingle, hflagged⟩ := h.accounts
  have hsound := hsingle.sound
  exact {
    unchanged := ⟨rfl, rfl, rfl⟩
    single := fun e he e' he' app app' happ happ' =>
      Option.some.inj ((hsingle.had e he app happ).symm.trans (hsingle.had e' he' app' happ'))
    load_kept := fun e he app happ _ => load_of_app (hsingle.had e he app happ)
    start_kept := fun e he app happ _ => start_of_app (hsingle.had e he app happ)
    refused := fun e hresult => by
      obtain ⟨hnone, hflag⟩ := unset_of_error hsingle hflagged hresult
      exact ⟨hnone, hflag, (load_of_error hsound hresult).2, start_of_error hsound hresult⟩
    uncompiled := fun _ => creation_of_compile_error
    start_ok := start_ok_iff hsound
    errors := errors_of_start hsound
    flagged := hflagged
    close_served := fun ⟨e, he, hserves⟩ =>
      close_of_ne_none fun hnone => hflagged.none_iff.mp hnone e he hserves
    close_unserved := fun hunserved => close_of_none (hflagged.none_iff.mpr hunserved) }

/-! A process that is asked for its application, then meets a listener that fails, is closed, and
is started again. -/

def healthViews : List (Value Handler) :=
  [Views.node [("url", .str "/health"), ("methods", Views.node [("get", .callable Views.health)]),
    ("access", .str "public")]]

def healthLife : List Event × Server :=
  live perform (ofViews {} .bare healthViews) [.start .comesUp, .close, .start .fails, .load]

theorem orderly_health : Reached {} .bare healthViews healthLife.1 healthLife.2 ∧
    Orderly {} .bare healthViews healthLife.1 healthLife.2 ∧
      healthLife.2.app.isSome = true ∧ healthLife.2.stopping = some false := by
  have hreached : Reached {} .bare healthViews healthLife.1 healthLife.2 :=
    lived_live perform (ofViews {} .bare healthViews)
      [.start .comesUp, .close, .start .fails, .load]
  exact ⟨hreached, orderly_of_reached hreached, by decide +kernel, by decide +kernel⟩

end Server

end Gatehouse
