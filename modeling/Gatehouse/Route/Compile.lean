import Gatehouse.Log
import Gatehouse.Route.Reader
import Gatehouse.Route.Table

/-!
# From trees to the table

Laying out a tree is a matter of the tree and the path of its root alone: it gives
a sequence of steps, which are entries and remarks about nodes that hold nothing.
What is done about the remarks, and which entries repeat an earlier one, is settled
when the steps of all trees are gone through in order.

A root is mounted below the base and a version; a child of a root goes where its own
url says or, without one, below its key, and deeper nodes always go below their key.
-/

namespace Gatehouse

/-- Where and how trees are compiled. -/
structure CompileOptions where
  base : String
  defaultVersion : String
  /-- Whether a node that holds nothing is an error. -/
  strict : Bool

/-- What laying out a tree comes across. -/
inductive LayoutStep (κ : Type) where
  | entry (e : RouteEntry κ)
  | emptyNode (path : String)
  | rootWithoutUrl

namespace RouteTree

variable {κ : Type}

/-- The path of a root. A root without a url has none; the text stands in for it. -/
def mountPath (base defaultVersion : String) (t : RouteTree κ) : String :=
  let version := match t.version with
    | some v => if v.isEmpty then defaultVersion else v
    | none => defaultVersion
  "/" ++ base ++ "/" ++ version ++ t.url.getD "None"

/-- The entries for the node's own verbs. -/
def ownSteps (path : String) (t : RouteTree κ) : List (LayoutStep κ) :=
  t.methods.map fun (verb, handler) =>
    .entry ⟨path, verb, Policy.resolve t.visibility t.roles verb, handler⟩

/-- The path of a child under `key`; only a child of a root may choose it. -/
def childPath (path : String) (underRoot : Bool) (key : String) (child : RouteTree κ) : String :=
  match underRoot, child.url with
  | true, some url => path ++ url
  | _, _ => path ++ "/" ++ key

/-- The remark on a node that holds nothing. -/
def emptySteps (path : String) (t : RouteTree κ) : List (LayoutStep κ) :=
  match t.shape with
  | .empty => [.emptyNode path]
  | _ => []

mutual

/-- The steps of a node: itself first, then its children one after the other. -/
def layout (path : String) (isRoot : Bool) : RouteTree κ → List (LayoutStep κ)
  | ⟨url, version, methods, visibility, roles, children⟩ =>
    let t : RouteTree κ := ⟨url, version, methods, visibility, roles, children⟩
    t.emptySteps path ++ t.ownSteps path ++ layoutChildren path isRoot children

def layoutChildren (path : String) (underRoot : Bool) :
    List (String × RouteTree κ) → List (LayoutStep κ)
  | [] => []
  | (key, child) :: rest =>
    layout (childPath path underRoot key child) false child ++
      layoutChildren path underRoot rest

end

/-- The steps of a root. -/
def layoutRoot (opts : CompileOptions) (t : RouteTree κ) : List (LayoutStep κ) :=
  match t.url with
  | none => [.rootWithoutUrl]
  | some _ => t.layout (t.mountPath opts.base opts.defaultVersion) true

end RouteTree

namespace RouteTable

variable {κ : Type}

/-- The entries so far, and what has been said about them. -/
structure Progress (κ : Type) where
  table : RouteTable κ
  logs : List LogEntry

def Progress.empty : Progress κ := ⟨[], []⟩

def compilerLog (level : LogLevel) (message : String) : LogEntry :=
  ⟨"routeforge.routing", level, message⟩

/-- Whether an entry for this path and verb is there already. -/
def holds (t : RouteTable κ) (path verb : String) : Bool :=
  t.any fun e => e.path = path && e.verb = verb

/-- One step. An entry that repeats an earlier one is kept, though no request reaches
it; a node that holds nothing is passed over, or refused under strict rules. -/
def step (strict : Bool) (p : Progress κ) : LayoutStep κ → Except (SpecError κ) (Progress κ)
  | .entry e =>
    let warnings :=
      if p.table.holds e.path e.verb then
        [compilerLog .warning ("Duplicate route " ++ Text.upper e.verb ++ " " ++ e.path ++
          " -- later declaration is shadowed")]
      else []
    .ok ⟨p.table ++ [e], p.logs ++ warnings⟩
  | .emptyNode path =>
    if strict then .error (.emptyNode path)
    else .ok { p with logs := p.logs ++ [compilerLog .warning
      ("Route node at " ++ path ++ " has neither methods nor children -- skipped")] }
  | .rootWithoutUrl =>
    if strict then .error .rootWithoutUrl
    else .ok { p with logs := p.logs ++ [compilerLog .warning
      "Root route view without url -- skipped"] }

/-- The outcome of a compilation, and what was said until then. -/
structure Compiled (κ : Type) where
  result : Except (SpecError κ) (RouteTable κ)
  logs : List LogEntry

/-- The steps of one tree, one after the other; an error stops, and what was said
before it stays. -/
def runSteps (strict : Bool) (p : Progress κ) :
    List (LayoutStep κ) → Except (SpecError κ × List LogEntry) (Progress κ)
  | [] => .ok p
  | s :: rest =>
    match step strict p s with
    | .ok p => runSteps strict p rest
    | .error e => .error (e, p.logs)

/-- One declared root: it is read and laid out before the next one is looked at. -/
def runRoot (opts : CompileOptions) (p : Progress κ) (v : Value κ) :
    Except (SpecError κ × List LogEntry) (Progress κ) :=
  match RouteTree.read v with
  | .error e => .error (e, p.logs)
  | .ok t => runSteps opts.strict p (t.layoutRoot opts)

def runRoots (opts : CompileOptions) (p : Progress κ) :
    List (Value κ) → Except (SpecError κ × List LogEntry) (Progress κ)
  | [] => .ok p
  | v :: rest =>
    match runRoot opts p v with
    | .ok p => runRoots opts p rest
    | .error e => .error e

/-- The table of a list of declared roots. -/
def compileRoots (opts : CompileOptions) (roots : List (Value κ)) : Compiled κ :=
  match runRoots opts .empty roots with
  | .error (e, logs) => ⟨.error e, logs⟩
  | .ok p =>
    let summary := "Compiled " ++ toString p.table.length ++ " route(s) across " ++
      toString p.table.paths.length ++ " path(s)"
    ⟨.ok p.table, p.logs ++ [compilerLog .info summary]⟩

/-- The table of whatever an application declares. -/
def compile (opts : CompileOptions) (views : Value κ) : Compiled κ :=
  match views.items? with
  | none => ⟨.error (.notIterable views.typeName), []⟩
  | some roots => compileRoots opts roots

end RouteTable

end Gatehouse
