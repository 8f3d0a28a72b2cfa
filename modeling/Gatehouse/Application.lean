import Gatehouse.Gate
import Gatehouse.Handler
import Gatehouse.Http.RateLimit
import Gatehouse.Http.Router
import Gatehouse.Route.Compile
import Gatehouse.Settings.Basic
import Gatehouse.Token.Verify

/-!
# The application

An application is made once, from declared routes and settings: the routes are compiled
and mounted, and tokens are judged by the verifier given or else by the secret. It
does not change afterwards. What does change while it runs is its standing: whether
its database is open, and how many requests were counted against the limits.
-/

namespace Gatehouse

/-- What the service gets from what it runs on. -/
structure Framework where
  /-- What the pages about the service are answered with. -/
  pages : Http.Pages
  /-- How many lists and objects may stand inside the outermost one of JSON, but for tokens. -/
  depth : Nat
  tokens : Token.Depths

/-- Nothing on the pages, and lists and objects one inside the other. -/
def Framework.bare : Framework := ⟨.blank, 1, ⟨1, 1, 1⟩⟩

/-- Nothing on the pages, and as many lists and objects inside each other as are usual. -/
def Framework.usual : Framework := ⟨.blank, 979, ⟨979, 979, 979⟩⟩

structure Application where
  settings : Settings
  /-- What judges tokens at a time. -/
  verifier : Int → Gate.Verifier
  framework : Framework
  table : RouteTable Handler
  places : List (Http.Mounted Handler)

/-- Why there is no application. -/
inductive CreateError where
  | spec (e : SpecError Handler)
  | noTitle
  | pattern (e : Http.PatternError)

def CreateError.message : CreateError → String
  | .spec e => e.message
  | .noTitle => "A title must be provided for OpenAPI, e.g.: 'My API'"
  | .pattern e => e.message

/-- What changes while an application runs. -/
structure Standing where
  storage : Storage
  windows : Http.RateLimit.Windows
deriving Inhabited

/-- The time, in microseconds, and how an attempt to reach the database goes at it. -/
structure Moment where
  now : Int
  attempt : Storage.Attempt
  /-- Whether the clock shows fractions of a second. -/
  fine : Bool := false

namespace Application

/-- Whole seconds of a time. -/
def second (now : Int) : Int := Int.fdiv now Token.perSecond

/-- What judges tokens where nothing else is given: the secret of the settings. -/
def tokenConfig (depths : Token.Depths) (s : Settings) : Token.Config :=
  ⟨.str s.secretKey, "HS256", .int s.tokenExpireSeconds, depths⟩

def tokenVerifier (c : Token.Config) (now : Int) : Gate.Verifier := fun token =>
  (Token.verifyDatum c now token).mapError fun f => .fault f.fault

def compileOptions (s : Settings) : CompileOptions := ⟨s.apiBase, s.apiVersion, s.strictRoutes⟩

/-- The outcome of making an application, and what was said until then. -/
structure Creation where
  result : Except CreateError Application
  logs : List LogEntry

/-- Makes an application of declared routes. -/
def create (settings : Settings) (verifier : Option (Int → Gate.Verifier))
    (framework : Framework) (views : Value Handler) : Creation :=
  let compiled := RouteTable.compile (compileOptions settings) views
  match compiled.result with
  | .error e => ⟨.error (.spec e), compiled.logs⟩
  | .ok table =>
    if settings.name.isEmpty then ⟨.error .noTitle, compiled.logs⟩
    else
      let mounting := Http.Router.mount table
      let logs := compiled.logs ++ mounting.logs
      match mounting.result with
      | .error e => ⟨.error (.pattern e), logs⟩
      | .ok places =>
        let verifier := verifier.getD (tokenVerifier (tokenConfig framework.tokens settings))
        ⟨.ok ⟨settings, verifier, framework, table, places⟩, logs⟩

/-- How an application stands before it has run. -/
def fresh (app : Application) : Standing := ⟨.ofUri app.settings.dbUri, []⟩

def log (message : String) : LogEntry := ⟨"routeforge.api", .info, message⟩

/-- Opens the database. -/
def start (app : Application) (a : Storage.Attempt) (st : Standing) :
    Except StorageFault Unit × Standing × List LogEntry :=
  let greeting := log (app.settings.name ++ " API starting up")
  match st.storage.start a with
  | (.ok (), storage, logs) =>
    (.ok (), { st with storage },
      greeting :: logs ++ [log ("Database " ++ app.settings.name ++ " started successfully")])
  | (.error f, storage, logs) => (.error f, { st with storage }, greeting :: logs)

/-- Closes the database. -/
def stop (app : Application) (st : Standing) : Standing × List LogEntry :=
  let (storage, logs) := st.storage.close
  ({ st with storage }, logs ++ [log (app.settings.name ++ " API shutdown complete")])

end Application

end Gatehouse
