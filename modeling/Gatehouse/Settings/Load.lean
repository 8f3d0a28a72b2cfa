import Gatehouse.Coercion.Basic
import Gatehouse.Json.Reader
import Gatehouse.Log
import Gatehouse.Settings.Basic
import Gatehouse.Text.Case
import Gatehouse.Text.Search
import Gatehouse.Value.Interchange

/-!
# Settings from what is given, from the environment and from a file

A value given directly goes before one of the environment, and that before one of the file
beside the program. The names of variables may be spelt in any case; unknown names are passed
over. All values are looked at, and all that are wrong are reported together, in the order of
the settings.

The secret has rules of its own, which apply to the settings as a whole: it must be
long enough, and only a service under development may do without one, in which case
a fresh one is made and a warning given.
-/

namespace Gatehouse.Settings

/-- How variables are looked at. -/
structure EnvReading where
  /-- Whether names must be spelt exactly like the settings. -/
  caseMatters : Bool := false
  /-- Whether empty variables count as not there. -/
  skipsEmpty : Bool := false
  /-- A word that stands for no value. -/
  noneWord : Option String := none
  /-- What stands in front of the name of every setting. -/
  front : String := ""
  /-- What stands between the name of a setting and that of a part of it; empty if the
  parts of a setting have no variables of their own. -/
  delimiter : String := ""
deriving DecidableEq, Repr, Inhabited

/-- Where variables stand. -/
inductive VariablePlace where
  | environment
  | file
deriving DecidableEq, Repr

/-- What reads the variables of a place, as it is named in messages. -/
def VariablePlace.reader : VariablePlace → String
  | .environment => "EnvSettingsSource"
  | .file => "DotEnvSettingsSource"

/-- Where settings come from. -/
structure Sources where
  /-- Values given directly, by name. -/
  init : List (String × Datum)
  /-- Variables of the environment, by name. -/
  env : List (String × String)
  /-- Variables of the file, by name. A name may stand there without a value. -/
  file : List (String × Option String)
  reading : EnvReading
  /-- How many lists and objects may stand inside the outermost one of a variable. -/
  depth : Nat

/-- Why there are no settings. -/
inductive LoadError where
  /-- A variable that must be JSON is not. -/
  | badVariable (place : VariablePlace) (setting : String)
  /-- A variable is JSON that goes too deep. -/
  | tooDeep (why : Json.Misread)
  /-- A value is given under a name that is no text. -/
  | namelessValue
  | invalid (complaints : List Complaint)

def LoadError.message : LoadError → String
  | .badVariable place setting =>
    "error parsing value for field \"" ++ setting ++ "\" from source \"" ++ place.reader ++ "\""
  | .tooDeep why => why.message
  | .namelessValue => "keywords must be strings"
  | .invalid _ => ""

namespace EnvReading

/-- A name as it is compared with the names of settings. -/
def fold (r : EnvReading) (name : String) : String :=
  if r.caseMatters then name else Text.lower name

/-- The name of the variable for a setting. -/
def variableName (r : EnvReading) (setting : String) : String := r.fold (r.front ++ setting)

/-- How variables are looked at if that is said among the values given directly. -/
def ofInit (init : List (String × Datum)) : EnvReading :=
  let flag (name : String) : Bool := ((init.lookup name).getD .none).isTruthy
  let text? (name : String) : Option String :=
    match init.lookup name with
    | some (.str s) => some s
    | _ => none
  { caseMatters := flag "_case_sensitive"
    skipsEmpty := flag "_env_ignore_empty"
    noneWord := text? "_env_parse_none_str"
    front := (text? "_env_prefix").getD ""
    delimiter := (text? "_env_nested_delimiter").getD "" }

end EnvReading

/-- The sources made of values under any keys, which must be names, and of variables. -/
def Sources.ofEntries (entries : List (Datum × Datum)) (env : List (String × String))
    (file : List (String × Option String)) (depth : Nat) : Except LoadError Sources := do
  let init ← entries.mapM fun
    | (.str name, v) => .ok (name, v)
    | _ => .error .namelessValue
  pure ⟨init, env, file, .ofInit init, depth⟩

/-- The value given directly for a setting: under its own name, or else under one that
differs in case. -/
def Sources.given? (s : Sources) (name : String) : Option Datum :=
  (s.init.lookup name).or
    ((s.init.find? fun p => s.reading.fold p.1 = name).map (·.2))

/-- The variables of a place. -/
def Sources.variables (s : Sources) : VariablePlace → List (String × Option String)
  | .environment => s.env.map fun (name, text) => (name, some text)
  | .file => s.file

/-- The variables that count, by their names as they are compared. -/
def Sources.variablesRead (s : Sources) (place : VariablePlace) :
    List (String × Option String) :=
  ((s.variables place).filter fun p => !(s.reading.skipsEmpty && p.2 = some "")).map fun p =>
    (s.reading.fold p.1, p.2)

/-- The variable for a setting, the last of those that differ in case. -/
def Sources.found? (s : Sources) (place : VariablePlace) (name : String) : Option String :=
  ((s.variablesRead place).reverse.lookup (s.reading.variableName name)).join

/-- The value of a variable. -/
def Sources.textValue (s : Sources) (text : String) : Datum :=
  if s.reading.noneWord = some text then .none else .str text

/-- The value for a setting. -/
def Sources.value? (s : Sources) (name : String) : Option Datum :=
  (s.given? name).or
    (((s.found? .environment name).or (s.found? .file name)).map s.textValue)

/-- The parts of a setting that have variables of their own. -/
def Sources.parts (s : Sources) (place : VariablePlace) (name : String) :
    List (Datum × Datum) :=
  let front := s.reading.variableName name ++ s.reading.delimiter
  if s.reading.delimiter.isEmpty then []
  else (s.variablesRead place).filterMap fun (k, v) =>
    if Text.startsWith front k then
      some (.str (String.ofList (k.toList.drop front.length)), v.elim .none s.textValue)
    else none

/-- The value of the variables of a place for a setting that is a list: it is written as JSON,
and nothing stands for the default. -/
def Sources.listFrom? (s : Sources) (place : VariablePlace) (name : String) :
    Except LoadError (Option Datum) :=
  match s.found? place name with
  | none =>
    match s.parts place name with
    | [] => .ok none
    | parts => .ok (some (.dict parts))
  | some text =>
    if s.reading.noneWord = some text then .ok (some .none)
    else
      match Json.readOuter s.depth text.toList with
      | .error .malformed => .error (.badVariable place name)
      | .error why => .error (.tooDeep why)
      | .ok .null => .ok none
      | .ok v => .ok (some (.ofJson v))

/-- The value for a setting that is a list. Both places are read, whatever is given. -/
def Sources.listValue? (s : Sources) (name : String) : Except LoadError (Option Datum) := do
  let fromEnv ← s.listFrom? .environment name
  let fromFile ← s.listFrom? .file name
  pure ((s.given? name).or (fromEnv.or fromFile))

/-- A setting of one value. -/
def Sources.check {α : Type} (s : Sources) (name : String) (standard : α)
    (coerce : Datum → Except Refusal α) : Checked α :=
  match s.value? name with
  | none => .ok standard
  | some v => .ofMember name (coerce v)

/-- A setting that is a list of texts. -/
def checkTexts (name : String) (standard : List String) : Option Datum → Checked (List String)
  | none => .ok standard
  | some v => (Coercion.toTexts v).mapError fun es =>
      es.map fun (place, reason) => ⟨.member name :: place, reason⟩

/-- The settings before the rules on the secret. -/
def Sources.settings (s : Sources) (origins : Option Datum) : Checked Settings :=
  let d : Settings := {}
  let bool (name : String) (standard : Bool) := s.check name standard Coercion.toBool
  let int (name : String) (standard : Int) := s.check name standard Coercion.toInt
  let text (name : String) (standard : String) := s.check name standard Coercion.toText
  let start : Checked _ := .ok Settings.mk
  start.apply (bool "debug" d.debug)
    |>.apply (text "environment" d.environment)
    |>.apply (text "secret_key" d.secretKey)
    |>.apply (text "name" d.name)
    |>.apply (text "host" d.host)
    |>.apply (int "port" d.port)
    |>.apply (int "server_timeout" d.serverTimeout)
    |>.apply (text "db_uri" d.dbUri)
    |>.apply (text "api_base" d.apiBase)
    |>.apply (text "api_version" d.apiVersion)
    |>.apply (bool "strict_routes" d.strictRoutes)
    |>.apply (int "token_expire_seconds" d.tokenExpireSeconds)
    |>.apply (bool "secure_cookies" d.secureCookies)
    |>.apply (text "rate_limit" d.rateLimit)
    |>.apply (bool "rate_limit_enabled" d.rateLimitEnabled)
    |>.apply (checkTexts "cors_origins" d.corsOrigins origins)
    |>.apply (text "sendgrid_api_key" d.sendgridApiKey)
    |>.apply (text "mail_sender" d.mailSender)

/-- Settings that were loaded, whether their secret was made for them, and what was
said about it. -/
structure Loaded where
  settings : Settings
  freshSecret : Bool
  logs : List LogEntry

def minSecretLength : Nat := 32

def secretMissing : String :=
  "SECRET_KEY is required in production mode. Set SECRET_KEY in your environment or " ++
    ".env file. To run in development mode, set DEBUG=true."

def secretTooShort : String := "SECRET_KEY must be at least 32 characters."

def freshWarning : LogEntry :=
  ⟨"routeforge.config", .warning,
    "Using auto-generated SECRET_KEY. Tokens will not persist across restarts."⟩

/-- The rules on the secret; `fresh` is the one that is made if there is none. -/
def secure (fresh : String) (s : Settings) : Except LoadError Loaded :=
  let refuse (text : String) : Except LoadError Loaded :=
    .error (.invalid [⟨[], .rule text⟩])
  if s.secretKey.isEmpty then
    if s.debug then
      if fresh.length < minSecretLength then refuse secretTooShort
      else .ok ⟨{ s with secretKey := fresh }, true, [freshWarning]⟩
    else refuse secretMissing
  else if s.secretKey.length < minSecretLength then refuse secretTooShort
  else .ok ⟨s, false, []⟩

/-- The settings that the sources give. -/
def load (fresh : String) (s : Sources) : Except LoadError Loaded := do
  let origins ← s.listValue? "cors_origins"
  let settings ← (s.settings origins).mapError .invalid
  secure fresh settings

/-- Settings that are loaded once and kept; a failed attempt is not kept. `loads`
counts the successful ones, so that it tells kept settings apart. -/
structure Cache where
  kept : Option Settings
  loads : Nat
deriving Inhabited

def Cache.empty : Cache := ⟨none, 0⟩

/-- The kept settings, or freshly loaded ones, which are then kept. -/
def Cache.get (c : Cache) (fresh : String) (s : Sources) :
    Except LoadError (Settings × List LogEntry) × Cache :=
  match c.kept with
  | some settings => (.ok (settings, []), c)
  | none =>
    match load fresh s with
    | .ok l => (.ok (l.settings, l.logs), ⟨some l.settings, c.loads + 1⟩)
    | .error e => (.error e, c)

def Cache.clear (c : Cache) : Cache := { c with kept := none }

end Gatehouse.Settings
