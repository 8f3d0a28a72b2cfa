import Gatehouse.Application
import Gatehouse.Http.Cors
import Gatehouse.Http.Payload
import Gatehouse.Http.SessionCookie

/-!
# Requests on their way through the application

A request goes through the application in steps, and between two steps other requests
may take theirs. When it arrives, its session is read, it is counted against the rate
limits, questions of browsers are answered, and its route is found. The gate looks for
a token and has it judged; the identity is noted with the request, and the handler's
acts follow one by one. At last the response takes the session along, and one line is
written to the access log.

Where something breaks that is no matter of a handler, the response is made outside of
all this: it brings no session, and the access log has no line for it. A request whose
address cannot be read is lost as soon as it has to be named in a log.
-/

namespace Gatehouse

/-- How far a request has come. -/
inductive Stage where
  | arrived
  /-- Its route is known. -/
  | routed (m : Http.Mounted Handler) (params : List (String × Datum))
  /-- Its token is about to be judged. -/
  | showing (m : Http.Mounted Handler) (params : List (String × Datum)) (token : Datum)
  /-- The gate let it pass. -/
  | passed (m : Http.Mounted Handler) (params : List (String × Datum))
      (identity : Option Identity)
  /-- Its handler is at work; `last` is what the last act came to. -/
  | handling (visit : Visit) (acts : List Act) (last : Reply)
  /-- A response is on its way back. -/
  | answered (r : Http.Response)
  /-- The response has been sent. `broken` tells that something broke. -/
  | done (r : Http.Response) (broken : Bool)
  /-- There will be no response. -/
  | lost

/-- A request on its way. -/
structure Exchange where
  request : Http.Request
  stage : Stage
  session : Session
  /-- Whether the client brought a good session cookie. -/
  carried : Bool
  /-- The identity noted with the request. -/
  noted : Option Identity
  /-- The handlers that were called, and for whom. -/
  calls : List (String × Option Identity)
  /-- The tokens that were judged. -/
  verified : List Datum
  logs : List LogEntry

/-- The session that a request comes with at a second. -/
def Application.load (app : Application) (second : Int) (r : Http.Request) :
    Option Http.SessionCookie.Arrival :=
  Http.SessionCookie.load app.framework.depth app.settings.secretKey second r

namespace Exchange

/-- A request that has just come in. -/
def ofRequest (r : Http.Request) : Exchange :=
  ⟨r, .arrived, .ofEntries [], false, none, [], [], []⟩

/-- Says something. -/
def tell (x : Exchange) (logs : List LogEntry) : Exchange := { x with logs := x.logs ++ logs }

/-- Ends a request because something broke. -/
def breakOff (x : Exchange) : Exchange :=
  { x.tell [Http.ErrorBody.brokenLog x.request] with
    stage := .done (Http.ErrorBody.ofApiError ⟨.unclassified, ""⟩) true }

/-- Sends a response back, with what a browser of another origin needs to know. -/
def respond (app : Application) (x : Exchange) (r : Http.Response) : Exchange :=
  { x with stage := .answered (Http.Cors.decorate app.settings.corsOrigins x.request r) }

/-- Tells a client about an error. -/
def respondError (app : Application) (x : Exchange) (e : ApiError) : Exchange :=
  (x.tell (Http.ErrorBody.apiErrorLogs x.request e)).respond app (Http.ErrorBody.ofApiError e)

/-- Answers a failure with a status of its own. -/
def respondStatus (app : Application) (x : Exchange) (code : Int) (detail : Datum)
    (headers : List (String × String)) : Exchange :=
  match Http.ErrorBody.ofStatus? code detail headers with
  | some r => x.respond app r
  | none => x.breakOff

/-- Answers a failure that the framework has a response of its own for, and breaks off
with any other. -/
def respondFault (app : Application) (x : Exchange) (f : Fault) : Exchange :=
  match Http.ErrorBody.ofFault? f with
  | some r => x.respond app r
  | none => x.breakOff

/-- A failure of the verifier: what is meant for a client gets there, anything else
breaks the request off. -/
def failAtGate (app : Application) (x : Exchange) : Failure → Exchange
  | .api e => x.respondError app e
  | .status code detail headers => x.respondStatus app code detail headers
  | .limited _ seconds => x.respond app (Http.RateLimit.refusalFor seconds)
  | .fault f => x.respondFault app f

def handlerLog (r : Http.Request) : LogEntry :=
  ⟨"routeforge.api.dispatch", .error, "Handler failed on " ++ Http.ErrorBody.place r⟩

/-- A failure of a handler. -/
def failInHandler (app : Application) (x : Exchange) : Failure → Exchange
  | .api e => x.respondError app e
  | .status code detail headers => x.respondStatus app code detail headers
  | .limited _ seconds => x.respond app (Http.RateLimit.refusalFor seconds)
  | .fault f => (x.tell [handlerLog x.request]).respondError app (Failure.classify (.fault f))

/-- Makes a response of what a handler gave back. -/
def conclude (app : Application) (x : Exchange) : Reply → Exchange
  | .response r => x.respond app r
  | .error e => x.respondError app e
  | .value .none => x.respond app .empty
  | .value v =>
    match Http.Payload.json v with
    | .ok j => x.respond app (.json 200 [] j)
    | .error _ => x.breakOff

/-! ## The steps -/

/-- Finds the route of a request. -/
def route (app : Application) (x : Exchange) : Exchange :=
  match Http.Router.destination app.places x.request with
  | .page => x.respond app (app.framework.pages.answer x.request)
  | .place m params => { x with stage := .routed m params }
  | .elsewhere path => x.respond app (Http.Router.pointing x.request path)
  | .unreadable => x.breakOff
  | .nowhere => x.respond app Http.ErrorBody.notFound

/-- Answers the question of a browser, or else goes on to the route. -/
def enter (app : Application) (x : Exchange) : Exchange :=
  match Http.Cors.question? x.request with
  | some (origin, method) =>
    let answer := Http.Cors.answer app.settings.corsOrigins x.request origin method
    { x with stage := .answered answer }
  | none => x.route app

/-- Whether a request breaks off before it is counted: where there are limits, every place
is asked about its path. -/
def isUncountable (app : Application) (x : Exchange) : Bool :=
  app.settings.rateLimitEnabled && Http.Router.balksAt app.places x.request.path

/-- Whether a request is counted against the rate limits: only what a route answers is. -/
def isCounted (app : Application) (x : Exchange) : Bool :=
  app.settings.rateLimitEnabled &&
    Http.Router.answers app.places x.request.method x.request.path

/-- Counts a request against the rate limits and lets it in if it exceeds none. -/
def meter (app : Application) (moment : Moment) (st : Standing) (x : Exchange) :
    Standing × Exchange :=
  if x.isUncountable app then (st, x.breakOff)
  else if x.isCounted app then
    match Http.RateLimit.parse? app.settings.rateLimit with
    | none => (st, x.breakOff)
    | some limits =>
      match Http.RateLimit.hitAll moment.fine moment.now (Http.RateLimit.clientOf x.request)
          x.request.path limits st.windows with
      | (.within, windows) => ({ st with windows }, x.enter app)
      | (.exceeded, windows) =>
        ({ st with windows }, { x with stage := .answered Http.RateLimit.refusal })
      | (.broken, windows) => ({ st with windows }, x.breakOff)
  else (st, x.enter app)

/-- Reads the session of a request and lets it in. -/
def arrive (app : Application) (moment : Moment) (st : Standing) (x : Exchange) :
    Standing × Exchange :=
  match app.load (Application.second moment.now) x.request with
  | none => (st, x.breakOff)
  | some a => { x with session := a.session, carried := a.carried }.meter app moment st

/-- Takes over what the gate decided. -/
def heed (app : Application) (x : Exchange) (m : Http.Mounted Handler)
    (params : List (String × Datum)) (d : Gate.Decision) : Exchange :=
  let x := { x with session := d.session.getD x.session, verified := x.verified ++ d.verified }
  let x := x.tell d.logs
  match d.outcome with
  | .ok (.proceed i) => { x with stage := .passed m params i }
  | .ok (.reject e) => x.respondError app e
  | .error f => x.failAtGate app f

/-- Comes to the gate. -/
def approach (app : Application) (x : Exchange) (m : Http.Mounted Handler)
    (params : List (String × Datum)) : Exchange :=
  match Gate.approach m.entry.policy x.request (some x.session) with
  | .decided d => x.heed app m params d
  | .showing token session =>
    { x with session := session.getD x.session, stage := .showing m params token }

/-- Has the token judged. -/
def judge (app : Application) (now : Int) (x : Exchange) (m : Http.Mounted Handler)
    (params : List (String × Datum)) (token : Datum) : Exchange :=
  x.heed app m params
    (Gate.settle x.request m.entry.policy.roles (some x.session) token (app.verifier now token))

/-- Notes the identity and calls the handler. -/
def call (x : Exchange) (m : Http.Mounted Handler) (params : List (String × Datum))
    (identity : Option Identity) : Exchange :=
  { x with
    noted := identity
    calls := x.calls ++ [(m.entry.handler.name, identity)]
    stage := .handling ⟨x.request, params, identity⟩ m.entry.handler.acts (.value .none) }

/-- What surrounds an act of the request's handler. -/
def around (app : Application) (moment : Moment) (st : Standing) (x : Exchange) :
    Surroundings :=
  ⟨x.noted, app.settings.name, st.storage, moment.attempt⟩

/-- Does one act. -/
def act (app : Application) (moment : Moment) (st : Standing) (x : Exchange) (visit : Visit)
    (last : Reply) (a : Act) (rest : List Act) : Exchange :=
  let outcome := a.run visit (x.around app moment st) last x.session
  let x := { x with session := outcome.session }.tell outcome.logs
  match outcome.reply with
  | .ok reply => { x with stage := .handling visit rest reply }
  | .error f => x.failInHandler app f

def accessLog (x : Exchange) (status : Int) : LogEntry :=
  Application.log (Http.ErrorBody.place x.request ++ " " ++ toString status ++ " " ++
    x.request.client.getD "unknown")

/-- Sends a response. -/
def send (app : Application) (now : Int) (x : Exchange) (r : Http.Response) : Exchange :=
  match Http.SessionCookie.save app.settings.secretKey app.settings.secureCookies
      (Application.second now).toNat x.carried x.session r with
  | .error _ => x.breakOff
  | .ok r => { x.tell [x.accessLog r.status] with stage := .done r false }

/-- The next step of a request that has an address. -/
def stepAddressed (app : Application) (moment : Moment) (st : Standing) (x : Exchange) :
    Standing × Exchange :=
  match x.stage with
  | .arrived => x.arrive app moment st
  | .routed m params => (st, x.approach app m params)
  | .showing m params token => (st, x.judge app moment.now m params token)
  | .passed m params identity => (st, x.call m params identity)
  | .handling _ [] last => (st, x.conclude app last)
  | .handling visit (a :: rest) last => (st, x.act app moment st visit last a rest)
  | .answered r => (st, x.send app moment.now r)
  | .done _ _ | .lost => (st, x)

/-- Whether a request has been named by its address in the step from `x` to `y`: its
handler was told the address, or a response was made, of which a log tells. -/
def wasNamed (x y : Exchange) : Bool :=
  match x.stage, y.stage with
  | .handling _ (.echo _ :: _) _, _ => true
  | _, .answered _ | _, .done _ _ => true
  | _, _ => false

/-- The next step of a request. -/
def step (app : Application) (moment : Moment) (st : Standing) (x : Exchange) :
    Standing × Exchange :=
  let (st, y) := x.stepAddressed app moment st
  if !x.request.hasAddress && wasNamed x y then
    (st, { y with stage := .lost, logs := x.logs })
  else (st, y)

/-! ## One request alone -/

/-- So many steps. -/
def advance (app : Application) (moment : Moment) :
    Nat → Standing → Exchange → Standing × Exchange
  | 0, st, x => (st, x)
  | n + 1, st, x =>
    let (st, x) := x.step app moment st
    advance app moment n st x

/-- The number of acts of the longest handler. -/
def longestHandler (places : List (Http.Mounted Handler)) : Nat :=
  places.foldl (fun n m => max n m.entry.handler.acts.length) 0

/-- Enough steps for any request. -/
def enough (app : Application) : Nat := longestHandler app.places + 6

/-- A request from its arrival to its response, with no other in between. -/
def serve (app : Application) (moment : Moment) (st : Standing) (r : Http.Request) :
    Standing × Exchange :=
  advance app moment (enough app) st (ofRequest r)

/-- The response that has been sent. -/
def response? (x : Exchange) : Option Http.Response :=
  match x.stage with
  | .done r _ => some r
  | _ => none

/-- Whether something broke. -/
def isBroken (x : Exchange) : Bool :=
  match x.stage with
  | .done _ broken => broken
  | .lost => true
  | _ => false

end Exchange

end Gatehouse
