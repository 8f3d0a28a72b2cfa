import Gatehouse.Catalogue
import Gatehouse.CommandLine.Switch

/-!
# What a command line orders

There are two commands: one prints the table of routes, the other serves them. Words
are read from the left. Help is given as soon as it is asked for, and the first mistake
ends the reading; words that nobody knows are complained about only at the very end.
-/

namespace Gatehouse.CommandLine

inductive Command where
  | routes
  | serve
deriving DecidableEq, Repr

namespace Command

def name : Command → String
  | .routes => "routes"
  | .serve => "serve"

def all : List Command := [.routes, .serve]

def ofName? (name : String) : Option Command := all.find? (·.name = name)

end Command

def helpSwitch : Switch := ⟨["-h", "--help"], .help⟩

def viewsSwitch : Switch := ⟨["--views"], .text⟩

def portSwitch : Switch := ⟨["--port"], .whole⟩

/-- The switches of a command. -/
def Command.switches : Command → List Switch
  | .routes => [helpSwitch, viewsSwitch]
  | .serve => [helpSwitch, viewsSwitch, portSwitch]

/-! ## Texts -/

def programName : String := "routeforge"

def usage : String := "usage: routeforge [-h] \x7broutes,serve\x7d ...\n"

def help : String :=
  usage ++
    "\nServe or inspect an HTTP API compiled from a route specification.\n" ++
    "\npositional arguments:\n" ++
    "  \x7broutes,serve\x7d\n" ++
    "    routes        Print the compiled route table\n" ++
    "    serve         Run the HTTP server\n" ++
    "\noptions:\n" ++
    "  -h, --help      show this help message and exit\n"

/-- The first line of the help on a command. -/
def Command.usage : Command → String
  | .routes => "usage: routeforge routes [-h] [--views MODULE[:ATTR]]\n"
  | .serve => "usage: routeforge serve [-h] [--views MODULE[:ATTR]] [--port PORT]\n"

/-- What is done with the routes of a target. -/
def Command.purpose : Command → String
  | .routes => "compile"
  | .serve => "serve"

def Command.help (c : Command) : String :=
  c.usage ++
    "\noptions:\n" ++
    "  -h, --help            show this help message and exit\n" ++
    "  --views MODULE[:ATTR]\n" ++
    "                        Route specification to " ++ c.purpose ++ " (default: " ++
      OwnModules.usualTarget ++ ")\n" ++
    (match c with
      | .routes => ""
      | .serve => "  --port PORT           Override PORT\n")

/-! ## Reading -/

/-- What a command was given. -/
structure Given where
  /-- The target; none where its switch was left without one. -/
  views : Option String
  port : Option Int
deriving DecidableEq, Repr

def Given.usual : Given := ⟨some OwnModules.usualTarget, none⟩

/-- Why the reading ends early: help is wanted, or a word is a mistake. -/
inductive Stop where
  | help
  | mistake (message : String)
deriving DecidableEq, Repr

/-- The effect of a switch with a value. Two dashes are no value, and leave it without
one. -/
def Given.take (g : Given) (s : Switch) (value : String) : Except Stop Given :=
  match s.kind with
  | .help => .ok g
  | .text => .ok { g with views := if value = "--" then none else some value }
  | .whole =>
    if value = "--" then .ok { g with port := none } else
    match IntegerText.parse? value.toList with
    | some n => .ok { g with port := some n }
    | none => .error (.mistake (SwitchError.notWhole s value).message)

/-- Why the reading ends at a switch for help. -/
def helpStop (s : Switch) (name : String) (joined : Option (List Char)) : Stop :=
  match joined.bind (helpError? s name) with
  | some e => .mistake e.message
  | none => .help

/-- The words of a command: what it is given, and the words that nobody knows. -/
def readWords (g : Given) : List (String × Meaning) → Except Stop (Given × List String)
  | [] => .ok (g, [])
  | (_, .switch s name joined) :: rest =>
    if s.kind = .help then .error (helpStop s name joined)
    else
      match joined, rest with
      | some j, rest => do
        let g ← g.take s (String.ofList j)
        readWords g rest
      | none, (value, .plain) :: rest => do
        let g ← g.take s value
        readWords g rest
      | none, _ => .error (.mistake (SwitchError.missing s).message)
  | (word, _) :: rest => (readWords g rest).map fun (g, unknown) => (g, word :: unknown)

/-- What a command line asks for. -/
inductive Order where
  | run (c : Command) (g : Given)
  /-- A text to be printed. -/
  | tell (text : String)
  /-- A complaint. -/
  | complain (text : String)
deriving DecidableEq, Repr

/-- A complaint about the words in front of a command or about the command. -/
def complaint (message : String) : Order :=
  .complain (usage ++ programName ++ ": error: " ++ message ++ "\n")

/-- A complaint about the words of a command. -/
def Command.complaint (c : Command) (message : String) : Order :=
  .complain (c.usage ++ programName ++ " " ++ c.name ++ ": error: " ++ message ++ "\n")

/-- The order once all words are read. -/
def orderOf (order : Order) (unknown : List String) : Order :=
  if unknown.isEmpty then order
  else complaint ("unrecognized arguments: " ++ String.intercalate " " unknown)

/-- The order of a command with its words; `unknown` are the words before it that nobody
knows. -/
def Command.order (c : Command) (unknown : List String) (words : List String) : Order :=
  match meanings c.switches words with
  | .error a => c.complaint a.message
  | .ok ms =>
    match readWords .usual ms with
    | .error .help => .tell c.help
    | .error (.mistake message) => c.complaint message
    | .ok (g, more) => orderOf (.run c g) (unknown ++ more)

def badChoice (word : String) : Order :=
  complaint ("argument command: invalid choice: " ++ Text.Quoted.text word ++
    " (choose from " ++
    String.intercalate ", " (Command.all.map fun c => Text.Quoted.text c.name) ++ ")")

/-- The words up to the command: `unknown` are those that nobody knows so far. -/
def readCommand (unknown : List String) : List (String × Meaning) → Order
  | [] => orderOf (.tell help) unknown
  | (_, .switch s name joined) :: _ =>
    match helpStop s name joined with
    | .help => .tell help
    | .mistake message => complaint message
  | (word, .unknown) :: rest => readCommand (unknown ++ [word]) rest
  | (word, .twoDashes) :: rest =>
    if rest.isEmpty then orderOf (.tell help) (unknown ++ [word]) else badChoice word
  | (word, .plain) :: rest =>
    match Command.ofName? word with
    | some c => c.order unknown (rest.map (·.1))
    | none => badChoice word

/-- The order that a command line gives. -/
def order (words : List String) : Order :=
  match meanings [helpSwitch] words with
  | .error a => complaint a.message
  | .ok ms => readCommand [] ms

end Gatehouse.CommandLine
