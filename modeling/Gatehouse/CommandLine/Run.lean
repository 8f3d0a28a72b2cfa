import Gatehouse.CommandLine.Order
import Gatehouse.Route.Listing
import Gatehouse.Server
import Gatehouse.Settings.Load

/-!
# Carrying out an order

An order is carried out with the settings of the environment and the routes of a
catalogue. What is printed, what is handed to a listener and what is said on the way is
told apart; an order that breaks off tells why.
-/

namespace Gatehouse.CommandLine

/-- Why an order broke off. -/
inductive Breakdown where
  | settings (e : Settings.LoadError)
  | target (e : TargetError)
  | spec (e : SpecError Handler)

/-- What came of an order. -/
structure Outcome where
  exit : Except Breakdown Int
  stdout : String
  stderr : String
  served : Option Listening
  logs : List LogEntry

namespace Outcome

/-- An order that was carried out without printing anything. -/
def exits (code : Int) (logs : List LogEntry) : Outcome := ⟨.ok code, "", "", none, logs⟩

def breaks (why : Breakdown) (logs : List LogEntry) : Outcome := ⟨.error why, "", "", none, logs⟩

end Outcome

/-- What an order finds: the variables of the environment and of the file beside the program,
the catalogue, a secret for a service without one, what the service runs on, and how a listener
takes its work. -/
structure Scene where
  env : List (String × String)
  file : List (String × Option String)
  catalogue : Catalogue
  fresh : String
  framework : Framework
  listener : Listener

/-- Prints the table of routes. -/
def printRoutes (settings : Settings) (views : List (Value Handler)) (logs : List LogEntry) :
    Outcome :=
  let compiled := RouteTable.compileRoots (Application.compileOptions settings) views
  let logs := logs ++ compiled.logs
  match compiled.result with
  | .error e => .breaks (.spec e) logs
  | .ok table => { Outcome.exits 0 logs with stdout := table.listing ++ "\n" }

/-- Serves the routes. -/
def serve (scene : Scene) (settings : Settings) (port : Option Int)
    (views : List (Value Handler)) (logs : List LogEntry) : Outcome :=
  let settings := { settings with port := port.getD settings.port }
  let start := (Server.ofViews settings scene.framework views).start scene.listener
  { Outcome.exits (if start.ok then 0 else 1) (logs ++ start.logs) with served := start.served }

/-- Carries out a command. -/
def runCommand (scene : Scene) (c : Command) (g : Given) : Outcome :=
  match Settings.load scene.fresh ⟨[], scene.env, scene.file, {}, scene.framework.depth⟩ with
  | .error e => .breaks (.settings e) []
  | .ok loaded =>
    match scene.catalogue.viewsOf g.views with
    | .error e => .breaks (.target e) loaded.logs
    | .ok views =>
      match c with
      | .routes => printRoutes loaded.settings views loaded.logs
      | .serve => serve scene loaded.settings g.port views loaded.logs

/-- Carries out a command line. -/
def run (scene : Scene) (words : List String) : Outcome :=
  match order words with
  | .tell text => { Outcome.exits 0 [] with stdout := text }
  | .complain text => { Outcome.exits 2 [] with stderr := text }
  | .run c g => runCommand scene c g

end Gatehouse.CommandLine
