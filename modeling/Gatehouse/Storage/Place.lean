import Gatehouse.Storage.Opening

/-!
# Where a database is kept

A database is kept in memory, in a nameless file that vanishes with it, or in a file on
the disk. The address of a file has a path and options, both with percent codes: a code
for zero ends what it stands in.
-/

namespace Gatehouse

/-- The directories of a disk, each as the names on the way to it, and the one that
paths without a leading slash start from. There are no files on it but those that are made
when a database is opened. -/
structure Disk where
  here : List String
  folders : List (List String)

namespace Disk

/-- The names on the way to a path, its detours taken out. -/
def way (d : Disk) (path : String) : List String :=
  let start := if path.toList.head? = some '/' then [] else d.here.reverse
  let step (back : List String) (piece : String) : List String :=
    if piece = "" || piece = "." then back
    else if piece = ".." then back.drop 1
    else piece :: back
  (((Query.split '/' path.toList).map String.ofList).foldl step start).reverse

/-- The longest name, in bytes, for which there is room with what is kept beside it. -/
def maxName : Nat := 247

/-- Whether a file can be opened, or made, under this path. -/
def opens (d : Disk) (path : String) : Bool :=
  let way := d.way path
  !way.isEmpty && d.folders.contains way.dropLast && !d.folders.contains way &&
    way.getLast?.all (·.utf8ByteSize ≤ maxName)

end Disk

namespace Storage

/-- Where a database is kept. -/
inductive Place where
  | memory
  /-- A file without a name. -/
  | nameless
  /-- A file; `journals` tells whether changes can be kept beside it until they are
  taken over. -/
  | file (path : String) (journals : Bool)
deriving DecidableEq, Repr

namespace Place

/-- A part of the address of a file, up to a code for zero. -/
def decode (cs : List Char) : String :=
  String.ofList (Text.Utf8.decodeLossy
    ((Percent.decode (Text.Utf8.encode cs)).takeWhile (· ≠ 0)))

/-- The options of the address of a file; those without a name are passed over. -/
def options (cs : List Char) : List (String × String) :=
  ((Query.split '&' cs).filter fun piece => !(piece.takeWhile (· != '=')).isEmpty).map
    fun piece => (decode (piece.takeWhile (· != '=')), decode ((piece.dropWhile (· != '=')).drop 1))

/-- How much an option lets be done with a file; memory is beyond all of it. -/
def rights : List (String × Nat) := [("ro", 1), ("rw", 2), ("rwc", 6), ("memory", 0x80)]

/-- The rights to make files and to write them. -/
def makingRights : Nat := 6

def memoryRights : Nat := 0x80

/-- The rights after one option: they can only be narrowed. -/
def narrow (held : Nat) (option : String × String) : Except StorageFault Nat :=
  if option.1 = "mode" then
    match rights.lookup option.2 with
    | none => .error .unreachable
    | some n => if n ≤ held || n = memoryRights then .ok n else .error .unreachable
  else if option.1 = "cache" && !(["shared", "private"].contains option.2) then .error .unreachable
  else .ok held

/-- The ways to reach files, and whether a file reached so can have others beside it. -/
def reaches : List (String × Bool) :=
  [("unix", true), ("unix-excl", true), ("unix-none", false), ("unix-dotfile", false),
    ("memdb", false)]

/-- Whether an option is set. -/
def isSet (options : List (String × String)) (name : String) : Bool :=
  match options.lookup name with
  | none => false
  | some v =>
    let digits := v.toList.takeWhile Char.isDigit
    digits.any (· ≠ '0') || ["yes", "true", "on"].contains (Text.lower v)

/-- Where a path with options leads to. Without the right to make files none can be opened,
since none is there. -/
def ofPath (path : String) (options : List (String × String)) : Except StorageFault Place := do
  let held ← options.foldlM narrow makingRights
  let reach := ((options.filter (·.1 = "vfs")).getLast?.map (·.2)).getD "unix"
  match reaches.lookup reach with
  | none => throw .unreachable
  | some beside =>
    if path = Opening.inMemory || held = memoryRights then pure .memory
    else if path.isEmpty then pure .nameless
    else if reach = "memdb" then pure .memory
    else if held ≠ makingRights then throw .unreachable
    else pure (.file path (beside && !isSet options "nolock" && !isSet options "immutable"))

/-- What follows the host in the address of a file; only this one may be named. -/
def behindHost : List Char → Except StorageFault (List Char)
  | '/' :: '/' :: rest =>
    let host := rest.takeWhile (· != '/')
    if host.isEmpty || host = "localhost".toList then .ok (rest.dropWhile (· != '/'))
    else .error .unreachable
  | cs => .ok cs

/-- Where the address of a file leads to, without the word in front. -/
def ofAddress (cs : List Char) : Except StorageFault Place := do
  let cs := (← behindHost cs).takeWhile (· != '#')
  ofPath (decode (cs.takeWhile (· != '?'))) (options ((cs.dropWhile (· != '?')).drop 1))

/-- Where an opening leads to. -/
def ofOpening (o : Opening) : Except StorageFault Place := do
  let name ← o.fileName
  match o.byAddress, name.toList with
  | true, 'f' :: 'i' :: 'l' :: 'e' :: ':' :: rest => ofAddress rest
  | _, _ => ofPath name []

/-- Whether a database kept there can be opened now. -/
def opens (d : Disk) : Place → Bool
  | .memory => true
  | .nameless => true
  | .file path _ => d.opens path

/-- How a database kept there writes its journal. -/
def journal : Place → String
  | .memory => "memory"
  | .nameless => "delete"
  | .file _ journals => if journals then "wal" else "delete"

end Place

end Storage

end Gatehouse
