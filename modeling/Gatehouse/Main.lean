import Gatehouse.CommandLine.Run

/-!
# The program

Runs the command line with the environment of the process and prints what comes of it.
No socket is opened here: what would be handed to a listener is printed instead. No file is
read either.
-/

namespace Gatehouse.Main

/-- The names settings are read under. -/
def settingNames : List String :=
  ["DEBUG", "ENVIRONMENT", "SECRET_KEY", "NAME", "HOST", "PORT", "SERVER_TIMEOUT", "DB_URI",
    "API_BASE", "API_VERSION", "STRICT_ROUTES", "TOKEN_EXPIRE_SECONDS", "SECURE_COOKIES",
    "RATE_LIMIT", "RATE_LIMIT_ENABLED", "CORS_ORIGINS", "SENDGRID_API_KEY", "MAIL_SENDER"]

/-- The variables that are set. -/
def environment : IO (List (String × String)) :=
  settingNames.filterMapM fun name => do
    let value ← IO.getEnv name
    pure (value.map fun v => (name, v))

/-- A fresh secret of 64 digits. -/
def freshSecret : IO String := do
  let bytes ← IO.getRandomBytes 32
  pure (String.ofList (Text.Hex.encode bytes.toList))

def logLine (e : LogEntry) : String := e.level.name ++ " " ++ e.logger ++ " " ++ e.message

/-- Why an order broke off, in words. -/
def breakdownLine : CommandLine.Breakdown → String
  | .settings (.invalid complaints) =>
    String.intercalate "\n" (complaints.map fun c => c.reason.message)
  | .settings e => e.message
  | .target e => e.message
  | .spec e => e.message

def listeningLine (l : Listening) : String :=
  "listening on " ++ l.host ++ ":" ++ toString l.port ++ " for " ++
    String.intercalate " " l.app.table.paths

/-- Runs a command line and gives the code to exit with. -/
def run (words : List String) : IO UInt32 := do
  let env ← environment
  let fresh ← freshSecret
  let outcome := CommandLine.run ⟨env, [], Catalogue.own, fresh, .usual, .comesUp⟩ words
  for e in outcome.logs do
    IO.eprintln (logLine e)
  for l in outcome.served.toList do
    IO.eprintln (listeningLine l)
  IO.print outcome.stdout
  IO.eprint outcome.stderr
  match outcome.exit with
  | .ok code => pure (UInt32.ofNat code.toNat)
  | .error why =>
    IO.eprintln (breakdownLine why)
    pure 1

end Gatehouse.Main

def main (words : List String) : IO UInt32 := Gatehouse.Main.run words
