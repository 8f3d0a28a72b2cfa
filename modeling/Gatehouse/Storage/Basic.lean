import Gatehouse.Log
import Gatehouse.Storage.Fault

/-!
# The database of a service

The service opens its database when it starts and closes it when it stops. Opening is done in
stages: an engine is made, it is connected, and it is asked something. Each stage may fail, and
only an engine that has answered is kept. Whether a stage succeeds is up to the database and
to what lies in between, so each operation is told how it goes this time (`Storage.Attempt`).
-/

namespace Gatehouse

/-- A database that may be open. Engines are told apart by number, in the order in which they
are made; one that was made need not have been kept. -/
structure Storage where
  uri : String
  engine : Option Nat
  made : Nat
deriving DecidableEq, Repr, Inhabited

namespace Storage

/-- How an attempt to reach the database goes, stage by stage. -/
structure Attempt where
  /-- Making an engine, which shows the address without its password. -/
  engine : Except StorageFault String
  /-- Connecting an engine. -/
  connect : Except StorageFault Unit
  /-- Asking what is connected, and taking leave of it. -/
  query : Except StorageFault Unit

namespace Attempt

/-- Whether an engine answers. -/
def answers (a : Attempt) : Except StorageFault Unit := do
  a.connect
  a.query

/-- The address that is shown if no stage fails. -/
def reached (a : Attempt) : Except StorageFault String := do
  let address ← a.engine
  a.answers
  pure address

/-- An attempt in which nothing fails. -/
def smooth (address : String) : Attempt := ⟨.ok address, .ok (), .ok ()⟩

end Attempt

def ofUri (uri : String) : Storage := ⟨uri, none, 0⟩

def started (s : Storage) : Bool := s.engine.isSome

def log (level : LogLevel) (message : String) : LogEntry :=
  ⟨"routeforge.storage", level, message⟩

/-- What is said when the database was opened. -/
def connected (address : String) : LogEntry :=
  log .info ("Storage connected (" ++ address ++ ")")

/-- Opens the database and makes sure that it answers. -/
def start (a : Attempt) (s : Storage) : Except StorageFault Unit × Storage × List LogEntry :=
  match s.engine with
  | some _ => (.ok (), s, [])
  | none =>
    match a.engine with
    | .error f => (.error f, s, [])
    | .ok address =>
      let number := s.made
      let s := { s with made := number + 1 }
      match a.answers with
      | .error f => (.error f, s, [])
      | .ok () => (.ok (), { s with engine := some number }, [connected address])

/-- Closes the database if it is open. -/
def close (s : Storage) : Storage × List LogEntry :=
  match s.engine with
  | some _ => ({ s with engine := none }, [log .info "Storage closed"])
  | none => (s, [])

/-- Asks the database for a sign of life. -/
def ping (a : Attempt) (s : Storage) : Bool × List LogEntry :=
  match s.engine with
  | none => (false, [])
  | some _ =>
    match a.answers with
    | .ok () => (true, [])
    | .error _ => (false, [log .warning "Storage ping failed"])

/-- The number of the open engine. -/
def engine? (s : Storage) : Except StorageFault Nat :=
  match s.engine with
  | some n => .ok n
  | none => .error .notStarted

end Storage

end Gatehouse
