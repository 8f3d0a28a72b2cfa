import Gatehouse.Text.Search
import Gatehouse.Text.Utf8
import Gatehouse.Value.Interchange

/-!
# What a handler's value becomes in a body

A handler returns a value and the client gets JSON. Collections become lists, bytes
become the text they encode, functions become objects without members, identities and
reports become objects, and members whose name starts with `_sa` are left out. Members
whose keys become equal are one member. Numbers that are not finite have no place in a body,
not even as keys, and neither have whole numbers with more digits than are written.
-/

namespace Gatehouse.Http.Payload

open Value (NotJson)

/-- Whether a member is left out. -/
def isHidden : Datum → Bool
  | .str s => Text.startsWith "_sa" s
  | _ => false

/-- A whole number, if it has no more digits than are written. -/
def whole (n : Int) : Except NotJson Datum :=
  if Json.isShort n then .ok (.int n) else .error .tooLong

/-- A key as it is compared with other keys: texts, numbers, truth values and nothing. -/
def key : Datum → Except NotJson Datum
  | .none => .ok .none
  | .bool b => .ok (.bool b)
  | .int n => whole n
  | .str s => .ok (.str s)
  | .float x => if x.isFinite then .ok (.float x) else .error .notFinite
  | .bytes bs =>
    match Text.Utf8.text? bs with
    | some s => .ok (.str s)
    | none => .error (.key "bytes")
  | k => .error (.key k.typeName)

def fields (members : List (String × Datum)) : Datum :=
  .dict (members.map fun (k, v) => (.str k, v))

mutual

/-- The value with only such parts as JSON has. -/
def plain : Datum → Except NotJson Datum
  | .none => .ok .none
  | .bool b => .ok (.bool b)
  | .int n => whole n
  | .str s => .ok (.str s)
  | .unpaired _ => .error .notText
  | .float x => if x.isFinite then .ok (.float x) else .error .notFinite
  | .bytes bs =>
    match Text.Utf8.text? bs with
    | some s => .ok (.str s)
    | none => .error (.value "bytes")
  | .list items | .tuple items | .set items | .frozenset items => (plainItems items).map .list
  | .dict entries => (plainEntries [] entries).map .dict
  | .callable _ => .ok (.dict [])
  | .identity subject role => do
    let subject ← plain subject
    let role ← plain role
    pure (fields [("subject", subject), ("role", role)])
  | .profile p => .ok (fields (Value.profileFields p))
  | .health h => .ok (fields (Value.healthFields h))
  | .kind k => .ok (.list [.int k.status, .str k.message])
  | v => .error (.value v.typeName)

def plainItems : List Datum → Except NotJson (List Datum)
  | [] => .ok []
  | v :: rest => do
    let p ← plain v
    let ps ← plainItems rest
    pure (p :: ps)

/-- The members put one after the other behind those that are there. -/
def plainEntries (before : List (Datum × Datum)) :
    List (Datum × Datum) → Except NotJson (List (Datum × Datum))
  | [] => .ok before
  | (k, v) :: rest =>
    if isHidden k then plainEntries before rest
    else do
      let k ← key k
      let p ← plain v
      plainEntries (Value.putEntry k p before) rest

end

/-- The JSON of a handler's value. -/
def json (v : Datum) : Except NotJson Json := do
  let p ← plain v
  p.toJson

end Gatehouse.Http.Payload
