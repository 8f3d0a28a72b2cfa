import Gatehouse.Value.Equality

/-!
# The session of a client

A session keeps values under keys from one request to the next. Beside its content
it remembers whether it was looked at and whether it was changed: a response depends
on a session that was looked at, and one that was changed has to be sent back.
-/

namespace Gatehouse

/-- Whether a value is a text that is not empty. -/
def Value.isFilledText : Datum → Bool
  | .str s => !s.isEmpty
  | .unpaired _ => true
  | _ => false

structure Session where
  entries : List (Datum × Datum)
  /-- Whether the session was looked at. -/
  touched : Bool
  /-- Whether the session was changed. -/
  changed : Bool
deriving Inhabited

namespace Session

/-- A session with this content that nobody has looked at. -/
def ofEntries (entries : List (Datum × Datum)) : Session := ⟨entries, false, false⟩

def get? (s : Session) (key : Datum) : Option Datum := Value.entry? key s.entries

/-- The session once somebody has looked at it. -/
def touch (s : Session) : Session := { s with touched := true }

/-- The session once somebody has tried to change it. -/
def change (s : Session) : Session := { s with touched := true, changed := true }

def set (s : Session) (key value : Datum) : Session :=
  ⟨Value.putEntry key value s.entries, true, true⟩

/-- Takes a key out; the session is changed only if the key was there. -/
def pop (s : Session) (key : Datum) : Session :=
  match s.get? key with
  | some _ => ⟨Value.eraseEntry key s.entries, true, true⟩
  | none => s.touch

def clear (_ : Session) : Session := ⟨[], true, true⟩

/-- The key under which a session keeps a token. -/
def tokenKey : Datum := .str "token"

/-- The token of a session: a text that is not empty. -/
def token? (s : Session) : Option Datum := (s.get? tokenKey).filter Value.isFilledText

end Session

end Gatehouse
