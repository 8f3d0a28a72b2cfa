import Gatehouse.Json.Printer
import Gatehouse.Json.Reader
import Gatehouse.Value.Equality

/-!
# The JSON of values

Tuples become lists, keys that are numbers, truth values or nothing become texts, and
all that has no counterpart is refused by the name of its type. Whole numbers with too
many digits are refused as well.
-/

namespace Gatehouse.Value

variable {κ : Type}

/-- The text of a number as JSON writes it. -/
def numberWord (x : Binary64) : String :=
  match x with
  | .nan => "NaN"
  | .infinite false => "Infinity"
  | .infinite true => "-Infinity"
  | x => x.text

/-- Why a value has no JSON. -/
inductive NotJson where
  | value (typeName : String)
  | key (typeName : String)
  /-- A number that is not finite where only finite ones are let through. -/
  | notFinite
  /-- Half of a surrogate pair where only characters are let through. -/
  | notText
  /-- A whole number with more digits than are written. -/
  | tooLong

/-- A key as a text. -/
def keyText (k : Value κ) : Except NotJson String :=
  match k with
  | .str s => .ok s
  | .unpaired points => .ok (Json.textOfPoints points)
  | .bool true => .ok "true"
  | .bool false => .ok "false"
  | .none => .ok "null"
  | .int n => if Json.isShort n then .ok (toString n) else .error .tooLong
  | .float x => .ok (numberWord x)
  | k => .error (.key k.typeName)

mutual

/-- The JSON of a value. -/
def toJson : Value κ → Except NotJson Json
  | .none => .ok .null
  | .bool b => .ok (.bool b)
  | .int n => if Json.isShort n then .ok (.int n) else .error .tooLong
  | .float x => .ok (.float x)
  | .str s => .ok (.str s)
  | .unpaired points => .ok (.unpaired points)
  | .list items | .tuple items => (toJsonItems items).map .arr
  | .dict entries => (toJsonMembers entries).map .obj
  | v => .error (.value v.typeName)

def toJsonItems : List (Value κ) → Except NotJson (List Json)
  | [] => .ok []
  | v :: rest => do
    let j ← toJson v
    let js ← toJsonItems rest
    pure (j :: js)

def toJsonMembers : List (Value κ × Value κ) → Except NotJson (List (String × Json))
  | [] => .ok []
  | (k, v) :: rest => do
    let key ← keyText k
    let j ← toJson v
    let js ← toJsonMembers rest
    pure ((key, j) :: js)

end

mutual

/-- What JSON denotes has that JSON, if it can be written. -/
theorem toJson_ofJson : ∀ {v : Json}, v.isWritable = true → (ofJson v : Value κ).toJson = .ok v
  | .null, _ | .bool _, _ | .float _, _ | .str _, _ | .unpaired _, _ => by
      simp only [ofJson, toJson]
  | .int n, h => by
      rw [Json.isWritable] at h
      rw [ofJson, toJson, if_pos h]
  | .arr items, h => by
      rw [ofJson, toJson, toJsonItems_ofJson h]
      rfl
  | .obj members, h => by
      rw [ofJson, toJson, toJsonMembers_ofJson h]
      rfl

theorem toJsonItems_ofJson : ∀ {vs : List Json}, Json.areWritable vs = true →
    toJsonItems (ofJsonItems vs : List (Value κ)) = .ok vs
  | [], _ => by rw [ofJsonItems, toJsonItems]
  | v :: vs, h => by
      rw [Json.areWritable, Bool.and_eq_true] at h
      rw [ofJsonItems, toJsonItems, toJson_ofJson h.1, toJsonItems_ofJson h.2]
      rfl

theorem toJsonMembers_ofJson : ∀ {ms : List (String × Json)}, Json.membersAreWritable ms = true →
    toJsonMembers (ofJsonMembers ms : List (Value κ × Value κ)) = .ok ms
  | [], _ => by rw [ofJsonMembers, toJsonMembers]
  | (k, v) :: ms, h => by
      rw [Json.membersAreWritable, Bool.and_eq_true] at h
      rw [ofJsonMembers, toJsonMembers, keyText, toJson_ofJson h.1, toJsonMembers_ofJson h.2]
      rfl

end

/-- Why a value has no JSON, in words. -/
def NotJson.message : NotJson → String
  | .value typeName => "Object of type " ++ typeName ++ " is not JSON serializable"
  | .key typeName => "keys must be str, int, float, bool or None, not " ++ typeName
  | .notFinite => "Out of range float values are not JSON compliant"
  | .notText => "surrogates not allowed"
  | .tooLong => "Exceeds the limit (4300 digits) for integer string conversion"

end Gatehouse.Value
