/-!
# Why a database cannot be used
-/

namespace Gatehouse

/-- Why the database cannot be used. -/
inductive StorageFault where
  | notStarted
  /-- The text is no address, or one that a database in a file cannot have. -/
  | badAddress
  /-- A part of the address cannot be read. -/
  | unreadable
  /-- A part of the address is missing, or is there several times. -/
  | mistyped
  /-- A number in the address is too large. -/
  | outOfRange
  | unknownKind
  /-- What is named as a driver is something else. -/
  | noDriver
  | missingDriver
  | unreachable
  /-- Anything else that is raised on the way to the database. -/
  | raised (name message : String)
deriving DecidableEq, Repr

namespace StorageFault

def message : StorageFault → String
  | .notStarted => "StorageManager.start() has not been called"
  | .raised _ message => message
  | _ => ""

/-- The name under which a fault is reported. -/
def className : StorageFault → String
  | .notStarted => "RuntimeError"
  | .badAddress => "ArgumentError"
  | .unreadable => "ValueError"
  | .mistyped => "TypeError"
  | .outOfRange => "OverflowError"
  | .unknownKind => "NoSuchModuleError"
  | .noDriver => "AttributeError"
  | .missingDriver => "ModuleNotFoundError"
  | .unreachable => "OperationalError"
  | .raised name _ => name

end StorageFault

end Gatehouse
