import Gatehouse.Failure.Basic
import Gatehouse.Json.Basic
import Gatehouse.Log
import Gatehouse.Settings.Basic

/-!
# Outgoing mail

Mail goes out through one web service. A test sends nothing, and neither does a
service that has no key for it; otherwise one request is made, and mail counts as
sent unless the request fails or is answered with an error.
-/

namespace Gatehouse

structure Mail where
  recipient : String
  subject : String
  text : String

namespace Mailer

/-- Where mail is handed in. -/
def endpoint : String := "https://api.sendgrid.com/v3/mail/send"

/-- How many times an answer may point elsewhere. -/
def maxRedirects : Nat := 3

/-- Seconds that an answer may take. -/
def timeoutSeconds : Nat := 10

/-- A request to the mail service. -/
structure Post where
  url : String
  body : Json
  headers : List (String × String)
  timeout : Nat

/-- How a request to the mail service ends. -/
inductive Answer where
  | status (code : Int) (reason : Option String)
  /-- No answer came. -/
  | unreached (message : String)
  /-- Something broke that is no matter of the network. -/
  | broken (f : Fault)

/-- Whether mail leaves the service at all. -/
def enabled (s : Settings) : Bool := s.environment != "test"

def log (level : LogLevel) (message : String) : LogEntry :=
  ⟨"routeforge.mailer", level, message⟩

/-- The request that hands in a mail. -/
def post (s : Settings) (m : Mail) : Post where
  url := endpoint
  body := .obj
    [("personalizations", .arr [.obj [("to", .arr [.obj [("email", .str m.recipient)]])]]),
      ("from", .obj [("email", .str s.mailSender)]),
      ("subject", .str m.subject),
      ("content", .arr [.obj [("type", .str "text/plain"), ("value", .str m.text)]])]
  headers := [("Authorization", "Bearer " ++ s.sendgridApiKey)]
  timeout := timeoutSeconds

/-- What an answer says against the request, if anything. -/
def refusal? (code : Int) (reason : Option String) : Option String :=
  let text (side : String) :=
    toString code ++ " " ++ side ++ " Error: " ++ reason.getD "None" ++ " for url: " ++ endpoint
  if 400 ≤ code ∧ code < 500 then some (text "Client")
  else if 500 ≤ code ∧ code < 600 then some (text "Server")
  else none

/-- What became of a mail. -/
structure Report where
  sent : Except Fault Bool
  posts : List Post
  logs : List LogEntry

def failed (m : Mail) (why : String) : LogEntry :=
  log .warning ("SendGrid delivery to " ++ m.recipient ++ " failed: " ++ why)

def notSent (m : Mail) : String :=
  "; not sending " ++ Text.Quoted.text m.subject ++ " to " ++ m.recipient

/-- Sends a mail; `answer` is what the mail service does if it is asked. -/
def send (s : Settings) (m : Mail) (answer : Answer) : Report :=
  if !enabled s then ⟨.ok false, [], [log .debug ("Mail delivery disabled" ++ notSent m)]⟩
  else if s.sendgridApiKey.isEmpty then
    ⟨.ok false, [], [log .warning ("SENDGRID_API_KEY not configured" ++ notSent m)]⟩
  else
    let posts := [post s m]
    match answer with
    | .broken f => ⟨.error f, posts, []⟩
    | .unreached why => ⟨.ok false, posts, [failed m why]⟩
    | .status code reason =>
      match refusal? code reason with
      | some why => ⟨.ok false, posts, [failed m why]⟩
      | none => ⟨.ok true, posts, []⟩

end Mailer

end Gatehouse
