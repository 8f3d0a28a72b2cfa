import Gatehouse.Application

/-!
# The service process

A process makes the application once, when it is first needed, and hands it to a
listener, which serves it until it is asked to stop. Starting never fails with an
error: it tells whether the listener came up, and what went wrong goes to the log.
-/

namespace Gatehouse

/-- How a listener takes its work. -/
inductive Listener where
  | comesUp
  /-- It returns without having come up. -/
  | givesUp
  | fails
deriving DecidableEq, Repr

/-- What a listener is given. -/
structure Listening where
  host : String
  port : Int
  /-- Seconds that an idle connection is kept. -/
  keepAlive : Int
  /-- The application that is to be served. -/
  app : Application

structure Server where
  views : List (Value Handler)
  settings : Settings
  framework : Framework
  app : Option Application
  /-- Whether the last listener was asked to stop; nothing before there was one. -/
  stopping : Option Bool

namespace Server

def ofViews (settings : Settings) (framework : Framework) (views : List (Value Handler)) :
    Server :=
  ⟨views, settings, framework, none, none⟩

def log (level : LogLevel) (message : String) : LogEntry := ⟨"routeforge.server", level, message⟩

/-- The application, which is made if it has not been made before. -/
def load (s : Server) : Except CreateError Application × Server × List LogEntry :=
  match s.app with
  | some app => (.ok app, s, [])
  | none =>
    let creation := Application.create s.settings none s.framework (.list s.views)
    match creation.result with
    | .ok app => (.ok app, { s with app := some app }, creation.logs)
    | .error e => (.error e, s, creation.logs)

/-- What a listener would be given. -/
def listening (s : Server) (app : Application) : Listening :=
  ⟨s.settings.host, s.settings.port, s.settings.serverTimeout, app⟩

def startedLog (s : Server) : LogEntry :=
  log .info ("Service " ++ s.settings.name ++ " started successfully on port " ++
    toString s.settings.port)

def failedLog (s : Server) : LogEntry :=
  log .error ("Service " ++ s.settings.name ++ " failed to start")

/-- What became of a start. -/
structure Start where
  ok : Bool
  served : Option Listening
  server : Server
  logs : List LogEntry

/-- Hands the application to a listener. -/
def start (listener : Listener) (s : Server) : Start :=
  match s.load with
  | (.error _, s, logs) => ⟨false, none, s, logs ++ [s.failedLog]⟩
  | (.ok app, s, logs) =>
    let given := s.listening app
    let s := { s with stopping := some false }
    match listener with
    | .comesUp => ⟨true, some given, s, logs ++ [s.startedLog]⟩
    | .givesUp => ⟨false, some given, s, logs⟩
    | .fails => ⟨false, some given, s, logs ++ [s.failedLog]⟩

/-- Asks the listener to stop, if there is one. -/
def close (s : Server) : Server := { s with stopping := s.stopping.map fun _ => true }

end Server

end Gatehouse
