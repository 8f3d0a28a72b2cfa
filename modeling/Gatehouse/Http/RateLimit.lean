import Gatehouse.Assoc
import Gatehouse.Http.ErrorBody
import Gatehouse.Number.Binary64
import Gatehouse.Number.IntegerText
import Gatehouse.Text.Blank

/-!
# Limits on the rate of requests

A limit allows a number of requests in a span of time. Requests are counted apart for
each client, path and limit, in windows: the first one opens a window, which lapses
when its span is over. Every request counts, also one that is turned away.

Limits are written as text, such as `2/minute` or `5 per 3 hours`; several of them are
separated by commas, semicolons or bars.
-/

namespace Gatehouse.Http.RateLimit

/-- A span of time that limits are given for. -/
inductive Span where
  | second
  | minute
  | hour
  | day
  | month
  | year
deriving DecidableEq, Repr

namespace Span

def name : Span → String
  | .second => "second"
  | .minute => "minute"
  | .hour => "hour"
  | .day => "day"
  | .month => "month"
  | .year => "year"

def all : List Span := [.hour, .minute, .second, .day, .month, .year]

/-- A month has thirty days and a year twelve months. -/
def seconds : Span → Nat
  | .second => 1
  | .minute => 60
  | .hour => 3600
  | .day => 86400
  | .month => 2592000
  | .year => 31104000

end Span

structure Limit where
  amount : Nat
  /-- How many spans make up the window. -/
  multiples : Nat
  span : Span
deriving DecidableEq, Repr

/-- Seconds for which a window is open. -/
def Limit.seconds (l : Limit) : Nat := l.multiples * l.span.seconds

/-! ## Limits as text -/

def isDigit (c : Char) : Bool := '0' ≤ c && c ≤ '9'

def skipBlanks (cs : List Char) : List Char := cs.dropWhile Text.isBlank

/-- What follows a word in letters of either case. -/
def afterWord? : List Char → List Char → Option (List Char)
  | [], cs => some cs
  | w :: word, c :: cs => if w = c.toLower then afterWord? word cs else none
  | _ :: _, [] => none

def numberOf (ds : List Char) : Nat := IntegerText.ofDigits (ds.map fun c => c.toNat - 48)

/-- What follows a slash or the word that stands for it. -/
def afterPer? (cs : List Char) : Option (List Char) :=
  match cs with
  | '/' :: rest => some rest
  | cs => afterWord? ['p', 'e', 'r'] cs

/-- A span at the start of a text, with or without the ending of the plural. -/
def span? (cs : List Char) : Option (Span × List Char) := do
  let (span, rest) ← Span.all.findSome? fun s => (afterWord? s.name.toList cs).map fun r => (s, r)
  match rest with
  | c :: more => pure (span, if c = 's' || c = 'S' || c = 'ſ' then more else rest)
  | [] => pure (span, rest)

/-- A limit at the start of a text, and what follows it and the blanks behind it. No
multiple, or none at all, means once. Numbers have a limited number of digits. -/
def limit? (cs : List Char) : Option (Limit × List Char) := do
  let cs := skipBlanks cs
  let amount := cs.takeWhile isDigit
  if amount.isEmpty then none
  else
    let rest ← afterPer? (skipBlanks (cs.dropWhile isDigit))
    let rest := skipBlanks rest
    let multiples := rest.takeWhile isDigit
    let (span, rest) ← span? (skipBlanks (rest.dropWhile isDigit))
    if IntegerText.maxDigits < amount.length ∨ IntegerText.maxDigits < multiples.length then none
    else
      let times := numberOf multiples
      pure (⟨numberOf amount, if times = 0 then 1 else times, span⟩, skipBlanks rest)

def isSeparator (c : Char) : Bool := c = ',' || c = ';' || c = '|'

/-- What follows a separator, in front of which a colon may stand. -/
def afterSeparator? : List Char → Option (List Char)
  | ':' :: c :: rest => if isSeparator c then some rest else none
  | c :: rest => if isSeparator c then some rest else none
  | [] => none

/-- All limits of a text, of which at most `fuel` are read. -/
def limitsUpTo : Nat → List Char → Option (List Limit)
  | 0, _ => none
  | fuel + 1, cs => do
    let (l, rest) ← limit? cs
    if rest.isEmpty then pure [l]
    else
      let rest ← afterSeparator? rest
      let ls ← limitsUpTo fuel rest
      pure (l :: ls)

/-- The limits that a text denotes. -/
def parse? (s : String) : Option (List Limit) := limitsUpTo (s.length + 1) s.toList

/-! ## Windows -/

/-- How many requests were counted, and the time at which the count lapses. -/
structure Window where
  count : Nat
  expires : Int
deriving DecidableEq, Repr

abbrev Windows := List (String × Window)

/-- What requests are counted under. -/
def windowKey (client path : String) (l : Limit) : String :=
  String.intercalate "/"
    [client, path, toString l.amount, toString l.multiples, l.span.name]

/-- Microseconds in a second. -/
def perSecond : Nat := 1000000

/-- The window under a key if it has not lapsed. -/
def open? (now : Int) (key : String) (ws : Windows) : Option Window :=
  (Assoc.get? key ws).filter fun w => decide (now < w.expires)

/-- Whether a clock can show the end of a window: one that shows fractions of a second
reaches only as far as floating point numbers do. -/
def canEnd (fine : Bool) (l : Limit) : Bool := !fine || (Binary64.ofInt l.seconds).isFinite

/-- The window under a key once one more request is counted; there is none if its end
cannot be shown. -/
def counted? (fine : Bool) (now : Int) (key : String) (l : Limit) (ws : Windows) :
    Option Window :=
  match open? now key ws with
  | some w => some { w with count := w.count + 1 }
  | none => if canEnd fine l then some ⟨1, now + l.seconds * perSecond⟩ else none

/-- What comes of counting a request. -/
inductive Tally where
  | within
  | exceeded
  /-- A window has no end that the clock can show. -/
  | broken
deriving DecidableEq, Repr

/-- Counts a request and tells whether it is within the limit. -/
def hit (fine : Bool) (now : Int) (key : String) (l : Limit) (ws : Windows) :
    Tally × Windows :=
  match counted? fine now key l ws with
  | none => (.broken, ws)
  | some w => (if w.count ≤ l.amount then .within else .exceeded, Assoc.put key w ws)

/-- Counts a request under each limit up to the first that it exceeds, and tells whether
it exceeds none. -/
def hitAll (fine : Bool) (now : Int) (client path : String) :
    List Limit → Windows → Tally × Windows
  | [], ws => (.within, ws)
  | l :: rest, ws =>
    match hit fine now (windowKey client path l) l ws with
    | (.within, ws) => hitAll fine now client path rest ws
    | stopped => stopped

/-- The address that requests without one are counted under. -/
def unknownClient : String := "127.0.0.1"

/-- The client that a request is counted under. -/
def clientOf (r : Request) : String :=
  match r.client with
  | some c => if c.isEmpty then unknownClient else c
  | none => unknownClient

/-- Seconds after which a client that was turned away may come back. -/
def retryAfter : Nat := 60

/-- The response to a request that exceeds a limit, where the client may come back after so
many seconds. -/
def refusalFor (seconds : Int) : Response :=
  let r := ErrorBody.response 429 [] "Too many requests."
  { r with headers := r.headers.set "retry-after" (toString seconds) }

/-- The response to a request that exceeds a limit of the application. -/
def refusal : Response := refusalFor retryAfter

end Gatehouse.Http.RateLimit
