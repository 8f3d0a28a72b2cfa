import Gatehouse.Number.FloatText
import Gatehouse.Storage.DatabaseUrl
import Gatehouse.Text.Case
import Gatehouse.Text.Quoted

/-!
# How a database in a file is opened

The options of an address say how its file is opened. Some have values of their own
kinds and are checked; others are passed over, unless the file is given by an address
itself and takes them along.
-/

namespace Gatehouse

/-- What an engine is made with: how to open its file. -/
structure Opening where
  /-- The name of the file, with what it takes along of the options. -/
  name : Option String
  /-- Whether the name may be an address itself. -/
  byAddress : Bool
  detectTypes : Int
  isolationLevels : List String
  cachedStatements : Int
deriving DecidableEq, Repr

namespace Opening

/-- The name of a database that is kept in memory. -/
def inMemory : String := ":memory:"

/-- The options that say how to open, rather than what. -/
def ownOptions : List String :=
  ["uri", "timeout", "isolation_level", "detect_types", "check_same_thread", "cached_statements"]

/-- The truth that a word stands for. -/
def truth? (s : String) : Option Bool :=
  let word := Text.lower (String.ofList (Text.trimBlanks s.toList))
  if ["true", "yes", "on", "y", "t", "1"].contains word then some true
  else if ["false", "no", "off", "n", "f", "0"].contains word then some false
  else none

/-- An option that is a truth. Given several times it is true. -/
def flag (u : DatabaseUrl) (name : String) : Except StorageFault Bool :=
  match u.option? name with
  | none => .ok false
  | some [v] =>
    match truth? v with
    | some b => .ok b
    | none => .error .unreadable
  | some _ => .ok true

/-- An option that is a whole number. -/
def whole (u : DatabaseUrl) (name : String) : Except StorageFault Int :=
  match u.option? name with
  | none => .ok 0
  | some [v] =>
    match IntegerText.parse? v.toList with
    | some n => .ok n
    | none => .error .unreadable
  | some _ => .error .mistyped

/-- Makes sure that an option is a number. -/
def checkNumber (u : DatabaseUrl) (name : String) : Except StorageFault Unit :=
  match u.option? name with
  | none => .ok ()
  | some [v] => if FloatText.isNumber v.toList then .ok () else .error .unreadable
  | some _ => .error .mistyped

/-- Makes sure that a whole number is small enough. -/
def checkRange (n : Int) : Except StorageFault Unit :=
  if -0x80000000 ≤ n && n ≤ 0x7fffffff then .ok () else .error .outOfRange

/-- The values of an option as the address of a file takes them along. -/
def shownValues : List String → String
  | [v] => v
  | vs => "(" ++ ", ".intercalate (vs.map Text.Quoted.text) ++ ")"

/-- What the address of a file takes along of the options. -/
def carried (u : DatabaseUrl) : List String :=
  (DatabaseUrl.sortedOptions (u.options.filter fun o => !ownOptions.contains o.1)).map
    fun (name, values) => name ++ "=" ++ shownValues values

/-- What an engine is made with for an address. -/
def ofUrl (u : DatabaseUrl) : Except StorageFault Opening := do
  let byAddress ← flag u "uri"
  checkNumber u "timeout"
  let detectTypes ← whole u "detect_types"
  let _ ← flag u "check_same_thread"
  let cachedStatements ← whole u "cached_statements"
  if byAddress && u.database.isNone && !(carried u).isEmpty then throw .mistyped
  let name :=
    if byAddress then u.database.map fun d =>
      if (carried u).isEmpty then d else d ++ "?" ++ "&".intercalate (carried u)
    else some (if (u.database.getD "").isEmpty then inMemory else u.database.getD "")
  pure ⟨name, byAddress, detectTypes, (u.option? "isolation_level").getD [], cachedStatements⟩

/-- The name of the file, once it is to be opened. One that holds a zero cannot be passed on. -/
def fileName (o : Opening) : Except StorageFault String := do
  checkRange o.detectTypes
  if o.isolationLevels.length > 1 then throw .unreadable
  checkRange o.cachedStatements
  match o.name with
  | none => throw .mistyped
  | some name => if name.toList.contains '\x00' then throw .unreadable else pure name

end Opening

end Gatehouse
