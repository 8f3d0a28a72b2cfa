/-!
# Log records

What the program tells its operator is data: the part of the program that speaks,
how serious the matter is, and the message.
-/

namespace Gatehouse

inductive LogLevel where
  | debug
  | info
  | warning
  | error
deriving DecidableEq, Repr

namespace LogLevel

def name : LogLevel → String
  | .debug => "DEBUG"
  | .info => "INFO"
  | .warning => "WARNING"
  | .error => "ERROR"

end LogLevel

structure LogEntry where
  logger : String
  level : LogLevel
  message : String
deriving DecidableEq, Repr

/-- The records of a log that tell of something broken. -/
def errorRecords (logs : List LogEntry) : List LogEntry := logs.filter (·.level = .error)

theorem errorRecords_append (logs more : List LogEntry) :
    errorRecords (logs ++ more) = errorRecords logs ++ errorRecords more :=
  List.filter_append logs more

end Gatehouse
