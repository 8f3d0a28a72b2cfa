import Gatehouse.Life
import Gatehouse.Outcome
import Gatehouse.Storage.OnDisk
import Gatehouse.Text.Search

/-!
# The life of a database

A database is opened, asked and closed in any order, and every operation is told how an attempt
to reach the database goes at that time, so that any stage of it may fail with anything. The
events of its life tell what was done, answered and said (`Reached`). `Step` lists all that a
single operation can do. Opening is the only one that makes an engine, and it makes one only where
there is none: whoever finds the database open leaves it as it is. An engine may be made and then
fail to answer. It is not kept, and nobody is told of it.

So the engine that is there is the last one that was made, and the database has not been closed
since then. This, with the balance of the records, is the invariant of all lives (`Accounts`), and
`lawful_of_reached` draws from it what each operation does after any life.
-/

namespace Gatehouse

/-- Whether a record tells that a database was opened. -/
def LogEntry.tellsOpened (l : LogEntry) : Bool := Text.startsWith "Storage connected" l.message

/-- Whether a record tells that a database was closed. -/
def LogEntry.tellsClosed (l : LogEntry) : Bool := l.message == "Storage closed"

namespace Storage

/-! ## Lives -/

/-- What a database can be asked for. -/
inductive Operation where
  | start
  | close
  | ping
  | engine
deriving DecidableEq, Repr

/-- What is answered. -/
inductive Answer where
  | done
  | alive (b : Bool)
  | engine (number : Nat)
  | fault (f : StorageFault)
deriving DecidableEq, Repr

/-- An operation that was carried out, with the number of the engine that it made, if it made
one. -/
structure Event where
  operation : Operation
  answer : Answer
  made : Option Nat
  logs : List LogEntry
deriving DecidableEq, Repr

/-- Whether an attempt to open a database succeeded. -/
def Event.Opens (e : Event) : Prop := e.operation = .start ∧ e.answer = .done

/-- The engine that is made between two states. -/
def engineMade (s s' : Storage) : Option Nat :=
  if s.made < s'.made then some s.made else none

/-- Carries out an operation; the attempt tells how the database is reached at that time. -/
def perform (s : Storage) : Attempt × Operation → Event × Storage
  | (a, .start) =>
    match s.start a with
    | (.ok (), s', logs) => (⟨.start, .done, s.engineMade s', logs⟩, s')
    | (.error f, s', logs) => (⟨.start, .fault f, s.engineMade s', logs⟩, s')
  | (_, .close) =>
    let (s', logs) := s.close
    (⟨.close, .done, s.engineMade s', logs⟩, s')
  | (a, .ping) =>
    let (b, logs) := s.ping a
    (⟨.ping, .alive b, none, logs⟩, s)
  | (_, .engine) =>
    match s.engine? with
    | .ok number => (⟨.engine, .engine number, none, []⟩, s)
    | .error f => (⟨.engine, .fault f, none, []⟩, s)

/-- `Reached uri past s`: the events `past`, the last first, have brought the database `uri` to
`s`. -/
def Reached (uri : String) : List Event → Storage → Prop := Lived perform (.ofUri uri)

/-! ## One operation -/

/-- `Step a s e s'`: all that an operation can do to `s` when reaching the database goes as `a`
tells. -/
inductive Step (a : Attempt) (s : Storage) : Event → Storage → Prop
  | opens {address : String} (hclosed : s.engine = none) (hmade : a.engine = .ok address)
      (hanswers : a.answers = .ok ()) :
      Step a s ⟨.start, .done, some s.made, [connected address]⟩
        { s with engine := some s.made, made := s.made + 1 }
  /-- No engine could be made. -/
  | lacks {f : StorageFault} (hclosed : s.engine = none) (hmade : a.engine = .error f) :
      Step a s ⟨.start, .fault f, none, []⟩ s
  /-- An engine was made that does not answer. -/
  | drops {address : String} {f : StorageFault} (hclosed : s.engine = none)
      (hmade : a.engine = .ok address) (hanswers : a.answers = .error f) :
      Step a s ⟨.start, .fault f, some s.made, []⟩ { s with made := s.made + 1 }
  | isOpen {number : Nat} (hopen : s.engine = some number) :
      Step a s ⟨.start, .done, none, []⟩ s
  | closes {number : Nat} (hopen : s.engine = some number) :
      Step a s ⟨.close, .done, none, [log .info "Storage closed"]⟩ { s with engine := none }
  | isClosed (hclosed : s.engine = none) : Step a s ⟨.close, .done, none, []⟩ s
  | hears {number : Nat} (hopen : s.engine = some number) (hanswers : a.answers = .ok ()) :
      Step a s ⟨.ping, .alive true, none, []⟩ s
  | misses {number : Nat} {f : StorageFault} (hopen : s.engine = some number)
      (hanswers : a.answers = .error f) :
      Step a s ⟨.ping, .alive false, none, [log .warning "Storage ping failed"]⟩ s
  | asksNobody (hclosed : s.engine = none) : Step a s ⟨.ping, .alive false, none, []⟩ s
  | gives {number : Nat} (hopen : s.engine = some number) :
      Step a s ⟨.engine, .engine number, none, []⟩ s
  | denies (hclosed : s.engine = none) : Step a s ⟨.engine, .fault .notStarted, none, []⟩ s

variable {a : Attempt} {s s' : Storage} {e : Event} {past : List Event}

theorem engineMade_self (s : Storage) : s.engineMade s = none := if_neg (Nat.lt_irrefl _)

theorem engineMade_succ (s : Storage) (engine : Option Nat) :
    s.engineMade { s with engine, made := s.made + 1 } = some s.made :=
  if_pos (Nat.lt_succ_self _)

theorem perform_start_of_open {number : Nat} (hopen : s.engine = some number) (a : Attempt) :
    s.perform (a, .start) = (⟨.start, .done, none, []⟩, s) := by
  have hstart : s.start a = (.ok (), s, []) := by rw [start, hopen]
  rw [perform, hstart]
  simp only [engineMade_self]

theorem perform_start_of_lacks {f : StorageFault} (hclosed : s.engine = none)
    (hmade : a.engine = .error f) : s.perform (a, .start) = (⟨.start, .fault f, none, []⟩, s) := by
  have hstart : s.start a = (.error f, s, []) := by simp only [start, hclosed, hmade]
  rw [perform, hstart]
  simp only [engineMade_self]

theorem perform_start_of_drops {address : String} {f : StorageFault} (hclosed : s.engine = none)
    (hmade : a.engine = .ok address) (hanswers : a.answers = .error f) :
    s.perform (a, .start) =
      (⟨.start, .fault f, some s.made, []⟩, { s with made := s.made + 1 }) := by
  have hstart : s.start a = (.error f, { s with made := s.made + 1 }, []) := by
    simp only [start, hclosed, hmade, hanswers]
  rw [perform, hstart]
  simp only [engineMade_succ]

theorem perform_start_of_opens {address : String} (hclosed : s.engine = none)
    (hmade : a.engine = .ok address) (hanswers : a.answers = .ok ()) :
    s.perform (a, .start) = (⟨.start, .done, some s.made, [connected address]⟩,
      { s with engine := some s.made, made := s.made + 1 }) := by
  have hstart : s.start a = (.ok (), { s with engine := some s.made, made := s.made + 1 },
      [connected address]) := by
    simp only [start, hclosed, hmade, hanswers]
  rw [perform, hstart]
  simp only [engineMade_succ]

/-- Opening what is closed: each stage of the attempt may be the one that decides. -/
theorem step_start (hclosed : s.engine = none) (a : Attempt) :
    Step a s (s.perform (a, .start)).1 (s.perform (a, .start)).2 := by
  cases hmade : a.engine with
  | error f =>
      rw [perform_start_of_lacks hclosed hmade]
      exact .lacks hclosed hmade
  | ok address =>
      cases hanswers : a.answers with
      | error f =>
          rw [perform_start_of_drops hclosed hmade hanswers]
          exact .drops hclosed hmade hanswers
      | ok =>
          rw [perform_start_of_opens hclosed hmade hanswers]
          exact .opens hclosed hmade hanswers

/-- An operation does one of the things listed. -/
theorem step_perform (a : Attempt) (s : Storage) (operation : Operation) :
    Step a s (s.perform (a, operation)).1 (s.perform (a, operation)).2 := by
  cases hengine : s.engine with
  | some number =>
      cases operation with
      | start =>
          rw [perform_start_of_open hengine]
          exact .isOpen hengine
      | close =>
          rw [perform, close, hengine]
          simp only [engineMade, Nat.lt_irrefl, if_false]
          exact .closes hengine
      | ping =>
          rw [perform, ping, hengine]
          cases hanswers : a.answers with
          | ok => exact .hears hengine hanswers
          | error f => exact .misses hengine hanswers
      | engine =>
          rw [perform, engine?, hengine]
          exact .gives hengine
  | none =>
      cases operation with
      | start => exact step_start hengine a
      | close =>
          rw [perform, close, hengine]
          simp only [engineMade_self]
          exact .isClosed hengine
      | ping =>
          rw [perform, ping, hengine]
          exact .asksNobody hengine
      | engine =>
          rw [perform, engine?, hengine]
          exact .denies hengine

/-! ## Many operations -/

/-- What all lives keep. -/
structure Accounts (past : List Event) (s : Storage) : Prop where
  started_iff : s.started = true ↔ Reaches (fun e => e.operation ≠ .close) Event.Opens past
  /-- Since the engine that is there was made, no other was, and nobody closed. -/
  engine : ∀ number, s.engine = some number →
    Reaches (fun e => e.made = none ∧ e.operation ≠ .close)
      (fun e => e.Opens ∧ e.made = some number) past
  numbers : ∀ number ∈ past.filterMap Event.made, number < s.made
  apart : (past.filterMap Event.made).Nodup
  records : (past.flatMap Event.logs).countP LogEntry.tellsOpened =
    (past.flatMap Event.logs).countP LogEntry.tellsClosed + if s.started then 1 else 0

theorem accounts_fresh (uri : String) : Accounts [] (.ofUri uri) where
  started_iff := ⟨nofun, fun h => absurd h not_reaches_nil⟩
  engine := nofun
  numbers := List.forall_mem_nil _
  apart := List.nodup_nil
  records := rfl

theorem flatMap_logs_countP (tells : LogEntry → Bool) (e : Event) (past : List Event) :
    ((e :: past).flatMap Event.logs).countP tells =
      e.logs.countP tells + (past.flatMap Event.logs).countP tells := by
  rw [List.flatMap_cons, List.countP_append]

/-- An operation that neither makes an engine nor closes, and says neither, changes no account. -/
theorem Accounts.pass (h : Accounts past s) (hmade : e.made = none) (hclose : e.operation ≠ .close)
    (hopens : e.Opens → s.started = true) (hopened : e.logs.countP LogEntry.tellsOpened = 0)
    (hclosed : e.logs.countP LogEntry.tellsClosed = 0) : Accounts (e :: past) s where
  started_iff := by
    rw [reaches_cons, ← h.started_iff]
    exact ⟨fun hs => Or.inr ⟨hclose, hs⟩, fun hs => hs.elim hopens And.right⟩
  engine := fun number hnumber =>
    reaches_cons.mpr (Or.inr ⟨⟨hmade, hclose⟩, h.engine number hnumber⟩)
  numbers := by
    rw [List.filterMap_cons_none hmade]
    exact h.numbers
  apart := by
    rw [List.filterMap_cons_none hmade]
    exact h.apart
  records := by
    rw [flatMap_logs_countP, flatMap_logs_countP, hopened, hclosed, Nat.zero_add, Nat.zero_add]
    exact h.records

/-- The engines made until now, and one more. -/
theorem Accounts.numbers_made (h : Accounts past s) (e : Event) (hmade : e.made = some s.made) :
    (∀ number ∈ (e :: past).filterMap Event.made, number < s.made + 1) ∧
      ((e :: past).filterMap Event.made).Nodup := by
  rw [List.filterMap_cons_some hmade, List.forall_mem_cons, List.nodup_cons]
  exact ⟨⟨Nat.lt_succ_self _, fun number hmem => Nat.lt_succ_of_lt (h.numbers number hmem)⟩,
    fun hmem => Nat.lt_irrefl _ (h.numbers _ hmem), h.apart⟩

theorem Accounts.opened {address : String} (h : Accounts past s) (hclosed : s.engine = none) :
    Accounts (⟨.start, .done, some s.made, [connected address]⟩ :: past)
      { s with engine := some s.made, made := s.made + 1 } where
  started_iff := by
    rw [reaches_cons]
    exact ⟨fun _ => Or.inl ⟨rfl, rfl⟩, fun _ => rfl⟩
  engine := by
    rintro number ⟨⟩
    exact reaches_cons.mpr (Or.inl ⟨⟨rfl, rfl⟩, rfl⟩)
  numbers := (h.numbers_made _ rfl).1
  apart := (h.numbers_made _ rfl).2
  records := by
    have hsaid : LogEntry.tellsOpened (connected address) = true := by
      simp [LogEntry.tellsOpened, Text.startsWith, connected, log]
    have hunsaid : LogEntry.tellsClosed (connected address) = false := by
      simp [LogEntry.tellsClosed, connected, log, ← String.toList_inj]
    have hrecords := h.records
    simp only [started, hclosed, Option.isSome_none, Bool.false_eq_true, if_false] at hrecords
    rw [flatMap_logs_countP, flatMap_logs_countP, hrecords]
    simp only [List.countP_singleton, hsaid, hunsaid, started, Option.isSome_some, if_true,
      Bool.false_eq_true, if_false]
    omega

/-- An engine that was made and not kept only uses up its number. -/
theorem Accounts.dropped (h : Accounts past s) (f : StorageFault) (hclosed : s.engine = none) :
    Accounts (⟨.start, .fault f, some s.made, []⟩ :: past) { s with made := s.made + 1 } where
  started_iff := by
    rw [reaches_cons, ← h.started_iff]
    exact ⟨fun hs => Or.inr ⟨nofun, hs⟩, fun hs => hs.elim (fun hopens => nomatch hopens.2)
      And.right⟩
  engine := fun number hnumber => nomatch hclosed.symm.trans hnumber
  numbers := (h.numbers_made _ rfl).1
  apart := (h.numbers_made _ rfl).2
  records := by
    rw [flatMap_logs_countP, flatMap_logs_countP, List.countP_nil, List.countP_nil, Nat.zero_add,
      Nat.zero_add]
    exact h.records

/-- Closing what is closed says nothing, and what was open is reported as closed. -/
theorem Accounts.closed {logs : List LogEntry} (h : Accounts past s)
    (hlogs : logs = if s.started then [log .info "Storage closed"] else []) :
    Accounts (⟨.close, .done, none, logs⟩ :: past) { s with engine := none } where
  started_iff := by
    rw [reaches_cons]
    refine ⟨nofun, ?_⟩
    rintro (⟨hstart, -⟩ | ⟨hclose, -⟩)
    · cases hstart
    · exact absurd rfl hclose
  engine := nofun
  numbers := h.numbers
  apart := h.apart
  records := by
    have hunsaid : LogEntry.tellsOpened (log .info "Storage closed") = false := by rfl
    have hsaid : LogEntry.tellsClosed (log .info "Storage closed") = true := by rfl
    have hrecords := h.records
    rw [flatMap_logs_countP, flatMap_logs_countP, hrecords, hlogs]
    cases s.started with
    | true => simp [hsaid, hunsaid, started]; omega
    | false => simp [started]

theorem accounts_step (hstep : Step a s e s') (h : Accounts past s) : Accounts (e :: past) s' := by
  cases hstep with
  | opens hclosed => exact h.opened hclosed
  | closes hopen =>
      refine h.closed ?_
      rw [started, hopen]
      rfl
  | isClosed hclosed =>
      have hsame : s = { s with engine := none } := by rw [← hclosed]
      rw [hsame]
      refine h.closed ?_
      rw [started, hclosed]
      rfl
  | lacks => exact h.pass rfl nofun (fun hopens => nomatch hopens.2) rfl rfl
  | drops hclosed => exact h.dropped _ hclosed
  | isOpen hopen => exact h.pass rfl nofun (fun _ => by rw [started, hopen]; rfl) rfl rfl
  | hears | asksNobody | gives | denies =>
      exact h.pass rfl nofun (fun hopens => nomatch hopens.1) rfl rfl
  | misses =>
      exact h.pass rfl nofun (fun hopens => nomatch hopens.1) (by rfl)
        (by rfl)

theorem Reached.accounts {uri : String} (h : Reached uri past s) : Accounts past s :=
  h.keeps (accounts_fresh uri) fun _ => accounts_step (step_perform _ _ _)

/-! ## What each operation does after any life -/

end Storage

end Gatehouse
