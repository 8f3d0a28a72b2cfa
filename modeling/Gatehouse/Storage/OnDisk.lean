import Gatehouse.Storage.Backend
import Gatehouse.Storage.Basic
import Gatehouse.Storage.Place

/-!
# A database on a disk

How attempts to reach a database go on one machine: with the drivers that are installed there,
with a disk as it is found, and with no connection left over from before. Whether the file of
a database can be opened is then decided by its address and by the directories of the disk.
-/

namespace Gatehouse.Storage

/-- The options that name what an engine is extended with. There are no extensions, and
the second name is taken out. -/
def withoutExtensions (u : DatabaseUrl) : Except StorageFault DatabaseUrl :=
  if (u.option? "plugin").isSome then .error .unknownKind
  else .ok { u with options := Assoc.erase "plugins" u.options }

/-- The engine for a text: its address and what it was made with. -/
def makeEngine (uri : String) : Except StorageFault (DatabaseUrl × Opening) := do
  let u ← withoutExtensions (← DatabaseUrl.parse uri)
  Backend.check u.kind
  if u.isRemote then throw .badAddress
  pure (u, ← Opening.ofUrl u)

/-- Opens the file of an engine, unless the database is kept in memory. -/
def openFile (d : Disk) (o : Opening) : Except StorageFault Place := do
  let place ← Place.ofOpening o
  if place.opens d then pure place else throw .unreachable

/-- How an attempt goes with the disk as it is. What is opened also answers. -/
def Attempt.onDisk (d : Disk) (uri : String) : Attempt :=
  match makeEngine uri with
  | .error f => ⟨.error f, .ok (), .ok ()⟩
  | .ok (u, o) => ⟨.ok u.render, (openFile d o).map fun _ => (), .ok ()⟩

/-- A sum that the open database works out. -/
def select (a : Attempt) (s : Storage) : Except StorageFault Nat := do
  let _ ← s.engine?
  a.answers
  pure (41 + 1)

/-- How the open database keeps its journal. -/
def journalMode (d : Disk) (s : Storage) : Except StorageFault String := do
  let _ ← s.engine?
  let (_, o) ← makeEngine s.uri
  let place ← openFile d o
  pure place.journal

end Gatehouse.Storage
