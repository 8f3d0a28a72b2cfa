import Gatehouse.Number.Shortest
import Gatehouse.Text.Quoted
import Gatehouse.Value.Basic

/-!
# How messages show a value

A message shows a value as the literal that would denote it. Text alone, where it
is not quoted, stands as it is.
-/

namespace Gatehouse.Value

variable {κ : Type}

def bracketed (left right : String) (parts : List String) : String :=
  left ++ String.intercalate ", " parts ++ right

/-- A tuple; one of a single item has a comma behind it. -/
def tupleLiteral : List String → String
  | [part] => "(" ++ part ++ ",)"
  | parts => bracketed "(" ")" parts

def mappingLiteral (entries : List (String × String)) : String :=
  bracketed "\x7b" "\x7d" (entries.map fun (k, v) => k ++ ": " ++ v)

def boolLiteral (b : Bool) : String := if b then "True" else "False"

/-- An identity or a profile, from the literals of its parts. -/
def identityLiteral (typeName subject role : String) : String :=
  bracketed (typeName ++ "(") ")" ["subject=" ++ subject, "role=" ++ role]

def healthParts (h : Health) : List String :=
  ["status=" ++ Text.Quoted.text h.status, "service=" ++ Text.Quoted.text h.service,
    "version=" ++ Text.Quoted.text h.version]

def kindPair (k : ErrorKind) : String :=
  tupleLiteral [toString k.status, Text.Quoted.text k.message]

def optionalTextLiteral : Option String → String
  | some s => Text.Quoted.text s
  | Option.none => "None"

def rolesLiteral (roles : List String) : String := tupleLiteral (roles.map Text.Quoted.text)

def setLiteral (typeName : String) (parts : List String) : String :=
  if parts.isEmpty then typeName ++ "()"
  else if typeName = "set" then bracketed "\x7b" "\x7d" parts
  else typeName ++ "(" ++ bracketed "\x7b" "\x7d" parts ++ ")"

def visibilityLiteral : Visibility → String
  | .everyone => "Public()"
  | .identified => "ProtectedForAll()"
  | .everyoneFor verbs =>
    "ProtectedPerVerb(public_verbs=" ++
      setLiteral "frozenset" (verbs.map Text.Quoted.text) ++ ")"

def roleRuleLiteral : RoleRule → String
  | .anyone => "Unrestricted()"
  | .oneOf roles => "RolesForAll(roles=" ++ rolesLiteral roles ++ ")"
  | .perVerb rules =>
    "RolesPerVerb(roles=" ++
      mappingLiteral (rules.map fun (v, rs) => (Text.Quoted.text v, rolesLiteral rs)) ++ ")"

mutual

/-- The literal of a node of the route tree. -/
def treeLiteral : RouteTree κ → String
  | ⟨url, version, methods, visibility, roles, children⟩ =>
    bracketed "RouteSpec(" ")"
      ["url=" ++ optionalTextLiteral url,
        "version=" ++ optionalTextLiteral version,
        "methods=mappingproxy(" ++
          mappingLiteral (methods.map fun (v, _) => (Text.Quoted.text v, "<function>")) ++ ")",
        "visibility=" ++ visibilityLiteral visibility,
        "roles=" ++ roleRuleLiteral roles,
        "children=mappingproxy(" ++ mappingLiteral (childLiterals children) ++ ")"]

def childLiterals : List (String × RouteTree κ) → List (String × String)
  | [] => []
  | (key, child) :: rest => (Text.Quoted.text key, treeLiteral child) :: childLiterals rest

end

mutual

/-- The literal of a value. -/
def literal : Value κ → String
  | .none => "None"
  | .bool b => boolLiteral b
  | .int n => toString n
  | .float x => x.text
  | .str s => Text.Quoted.text s
  | .unpaired points => Text.Quoted.points points
  | .bytes bs => Text.Quoted.bytes bs
  | .list items => bracketed "[" "]" (literals items)
  | .tuple items => tupleLiteral (literals items)
  | .set items => setLiteral "set" (literals items)
  | .frozenset items => setLiteral "frozenset" (literals items)
  | .dict entries => mappingLiteral (entryLiterals entries)
  | .callable _ => "<function>"
  | .tree t => treeLiteral t
  | .identity subject role => identityLiteral "Identity" (literal subject) (literal role)
  | .profile p =>
    identityLiteral "IdentityResponse" (Text.Quoted.text p.subject) (Text.Quoted.text p.role)
  | .health h => bracketed "HealthResponse(" ")" (healthParts h)
  | .kind k => "<ErrorKind." ++ k.name ++ ": " ++ kindPair k ++ ">"
  | .thing word _ => "<" ++ word ++ ">"

def literals : List (Value κ) → List String
  | [] => []
  | v :: rest => literal v :: literals rest

def entryLiterals : List (Value κ × Value κ) → List (String × String)
  | [] => []
  | (k, v) :: rest => (literal k, literal v) :: entryLiterals rest

end

/-- A value as text: a text itself, anything else mostly as its literal. -/
def text : Value κ → String
  | .str s => s
  | .unpaired points => Json.textOfPoints points
  | .profile p =>
    "subject=" ++ Text.Quoted.text p.subject ++ " role=" ++ Text.Quoted.text p.role
  | .health h => String.intercalate " " (healthParts h)
  | .kind k => "ErrorKind." ++ k.name
  | v => literal v

end Gatehouse.Value
