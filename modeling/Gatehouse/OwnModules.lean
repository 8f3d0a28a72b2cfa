import Gatehouse.Handler
import Gatehouse.Value.Basic
import Gatehouse.Views

/-!
# The service's own modules

A target may lead into any module of the service. Only one of them declares routes; of
what the others declare no more is needed than what comes of going through it item by
item. What they take from libraries is left out.
-/

namespace Gatehouse

/-- What a module declares, by name. -/
abbrev Declarations := List (String × Value Handler)

namespace OwnModules

/-- The target where none is given. -/
def usualTarget : String := "views:ROUTES"

/-- Names for things of one type. -/
def things (word : String) (names : List String) : Declarations :=
  names.map fun n => (n, .thing word)

def functions : List String → Declarations := things "function"

def classes : List String → Declarations := things "type"

def modules : List String → Declarations := things "module"

/-- Classes that only say what others can do. -/
def interfaces : List String → Declarations := things "ABCMeta"

/-- Classes that check what their instances are made of. -/
def models : List String → Declarations := things "ModelMetaclass"

/-- Choices between types. -/
def unions : List String → Declarations := things "types.UnionType"

/-- Types of functions; going through one gives it back once. -/
def signatures (names : List String) : Declarations :=
  names.map fun n => (n, .tuple [.thing "GenericAlias"])

/-- A class of named cases; going through it gives the cases. -/
def cases (name : String) (count : Nat) : Declarations :=
  [(name, .list (List.replicate count (.thing name)))]

def texts (pairs : List (String × String)) : Declarations :=
  pairs.map fun (n, s) => (n, .str s)

/-- What every module has names for. -/
def common : Declarations :=
  things "method-wrapper"
    ["__delattr__", "__eq__", "__ge__", "__getattribute__", "__gt__", "__hash__", "__init__",
      "__le__", "__lt__", "__ne__", "__repr__", "__setattr__", "__str__"] ++
  things "builtin_function_or_method"
    ["__dir__", "__format__", "__getstate__", "__init_subclass__", "__new__", "__reduce__",
      "__reduce_ex__", "__sizeof__", "__subclasshook__"] ++
  classes ["__class__"] ++ [("__annotations__", .dict [])]

/-- A module with what it declares, its own name and the list of all that it declares. -/
def finish (name : String) (declared : Declarations) : String × Declarations :=
  let declared := declared ++ texts [("__name__", name)]
  (name, declared ++ ("__dict__", .dict (declared.map fun (n, v) => (.str n, v))) :: common)

/-- A module that was not read from a file. -/
def loose (name : String) (declared : Declarations) : String × Declarations :=
  finish name (declared ++
    ["__doc__", "__package__", "__loader__", "__spec__"].map fun n => (n, .none))

/-- What a module has that was read from a file. -/
def fromFile (name package : String) (documented : Bool) : Declarations :=
  ("__doc__", if documented then .str name else .none) ::
  ("__builtins__", .dict [(.str "__name__", .str "builtins")]) ::
  texts [("__package__", package), ("__file__", name), ("__cached__", name)] ++
    things "SourceFileLoader" ["__loader__"] ++ things "ModuleSpec" ["__spec__"]

/-- A module that stands for itself. -/
def single (name : String) (declared : Declarations) : String × Declarations :=
  finish name (declared ++ fromFile name "" true)

/-- A package that holds modules. -/
def package (name : String) (documented : Bool) (parts : List (String × Declarations)) :
    List (String × Declarations) :=
  finish name (modules (parts.map (·.1)) ++ ("__path__", .list [.str name]) ::
      fromFile name name documented) ::
    parts.map fun (part, declared) =>
      finish (name ++ "." ++ part) (declared ++ fromFile part name true)

/-- What most modules take from others. -/
def usual : Declarations := things "_Feature" ["annotations"] ++ modules ["logging"]

def logger : Declarations := things "Logger" ["logger"]

def anything : Declarations := things "_AnyMeta" ["Any"]

def settings : Declarations :=
  models ["Settings"] ++ things "functools._lru_cache_wrapper" ["get_settings"]

def errorKinds : Declarations := [("ErrorKind", .list (ErrorKind.all.map .kind))]

def verifiers : Declarations := things "_ProtocolMeta" ["TokenVerifier"]

def tokenFailures : Declarations := cases "TokenFailure" 2

def nodeKinds : Declarations := cases "NodeKind" 4

/-- The class that classes of named cases are made from has none itself. -/
def noCases : Declarations := cases "Enum" 0

def version : Declarations := texts [("VERSION", serviceVersion)]

def routes : Declarations := [("ROUTES", Views.standard)]

def accessModules : List (String × Declarations) :=
  package "auth" true
    [("gate", usual ++ logger ++ interfaces ["Awaitable", "Callable", "Request"] ++
        functions ["dataclass", "_session", "extract_token", "clear_session_token",
          "build_guard"] ++
        classes ["Identity", "AccessPolicy", "ApiError", "Proceed", "Reject"] ++
        tokenFailures ++ verifiers ++ errorKinds ++
        texts [("BEARER_PREFIX", "Bearer "), ("SESSION_TOKEN_KEY", "token")] ++
        unions ["Outcome"] ++ signatures ["Guard"]),
      ("models", things "_Feature" ["annotations"] ++ functions ["dataclass"] ++
        [("TYPE_CHECKING", .bool false)] ++ classes ["Identity", "RequestContext"]),
      ("policy", things "_Feature" ["annotations"] ++ interfaces ["Mapping", "Sequence"] ++
        functions ["dataclass", "field", "parse_visibility", "_role_set", "parse_roles",
          "resolve"] ++
        classes ["RouteSpecError", "Public", "ProtectedForAll", "ProtectedPerVerb",
          "Unrestricted", "RolesForAll", "RolesPerVerb", "AccessPolicy"] ++
        texts [("PUBLIC", "public")] ++ unions ["Visibility", "RoleRule"]),
      ("tokens", usual ++ logger ++ noCases ++ tokenFailures ++ verifiers ++
        things "_ProtocolMeta" ["Protocol"] ++ texts [("_ALGORITHM", "HS256")] ++
        classes ["datetime", "timedelta", "timezone", "Identity", "JwtTokenVerifier"])]

def coreModules : List (String × Declarations) :=
  package "core" false
    [("config", modules ["logging", "secrets"] ++ logger ++ settings ++
        functions ["lru_cache"]),
      ("errors", things "_Feature" ["annotations"] ++ noCases ++ errorKinds ++
        functions ["classify"] ++ classes ["ApiError", "RouteSpecError"])]

def routingModules : List (String × Declarations) :=
  package "routing" true
    [("compiler", usual ++ logger ++ anything ++ verifiers ++ nodeKinds ++
        interfaces ["Iterable", "Iterator", "Mapping"] ++ signatures ["Guard", "Handler"] ++
        functions ["dataclass", "build_guard", "resolve", "mount_path", "compile_routes"] ++
        classes ["AccessPolicy", "RouteSpecError", "RouteSpec", "CompiledRoute", "RouteTable",
          "_Compiler"]),
      ("spec", things "_Feature" ["annotations"] ++ anything ++ nodeKinds ++ noCases ++
        interfaces ["Callable", "Mapping"] ++ signatures ["Handler"] ++
        functions ["dataclass", "field", "parse_roles", "parse_visibility"] ++
        unions ["RoleRule", "Visibility"] ++
        classes ["MappingProxyType", "ProtectedForAll", "Unrestricted", "RouteSpecError",
          "RouteSpec"] ++
        [("_FIELDS", .set (["url", "version", "methods", "access", "roles", "children"].map
          .str))])]

def requestModules : List (String × Declarations) :=
  package "api" false
    [("dispatch", usual ++ logger ++ anything ++ modules ["inspect", "re"] ++
        interfaces ["Request"] ++ things "re.Pattern" ["_SLUG_RE"] ++
        functions ["error_response", "classify", "render", "invoke", "make_endpoint",
          "operation_id", "methods_for", "mount"] ++
        classes ["Reject", "RequestContext", "ApiError", "CompiledRoute", "RouteTable"]),
      ("errors", usual ++ logger ++ interfaces ["Request"] ++ models ["ErrorResponse"] ++
        errorKinds ++ [("NOT_FOUND_STATUSES", .tuple [.int 404, .int 405])] ++
        functions ["classify", "error_response", "not_found_response", "api_error_handler",
          "http_exception_handler", "rate_limit_handler", "generic_exception_handler",
          "install_error_handlers"] ++
        classes ["ApiError"]),
      ("limiter", models ["Settings"] ++ functions ["build_limiter"]),
      ("main", usual ++ logger ++ anything ++ modules ["time"] ++ settings ++ verifiers ++
        version ++ interfaces ["AsyncIterator", "Iterable", "Mapping", "Request"] ++
        functions ["asynccontextmanager", "mount", "install_error_handlers", "build_limiter",
          "compile_routes", "lifespan", "log_requests", "create_app"] ++
        classes ["JwtTokenVerifier", "Mailer", "RouteSpec", "StorageManager"]),
      ("models", models ["ErrorResponse", "HealthResponse", "IdentityResponse"] ++
        classes ["Identity", "ApiError"])]

def mailModules : List (String × Declarations) :=
  package "notify" true
    [("mailer", usual ++ logger ++ settings ++ classes ["Mailer"] ++
        texts [("SENDGRID_API", "https")])]

def storageModules : List (String × Declarations) :=
  package "storage" true
    [("manager", usual ++ logger ++ functions ["_set_wal_mode"] ++ classes ["StorageManager"])]

/-- The modules that stand for themselves. -/
def singles : List (String × Declarations) :=
  [single "views" (routes ++ things "_Feature" ["annotations"] ++ version ++
      models ["HealthResponse", "IdentityResponse"] ++ classes ["RequestContext"] ++
      functions ["health", "me"]),
    single "asgi" (routes ++ functions ["create_app"] ++ things "FastAPI" ["app"]),
    single "main" (modules ["asyncio", "importlib", "sys"] ++
      things "functools._lru_cache_wrapper" ["get_settings"] ++ classes ["RouteTable"] ++
      texts [("DEFAULT_VIEWS", usualTarget)] ++
      functions ["compile_routes", "load_views", "format_table", "cmd_routes", "cmd_serve",
        "main"]),
    single "server" (usual ++ logger ++ anything ++ settings ++
      interfaces ["Iterable", "Mapping"] ++ functions ["create_app"] ++
      classes ["RouteSpec", "ServiceServer", "App"])]

/-- All modules of the service. -/
def all : List (String × Declarations) :=
  singles ++ requestModules ++ accessModules ++ coreModules ++ mailModules ++ routingModules ++
    storageModules

/-- Modules of general use that are there as well. -/
def surroundings : List (String × Declarations) :=
  [single "os" (texts [("name", "posix"), ("sep", "/")] ++ modules ["path"] ++
      functions ["getcwd"] ++ [("environ", .dict [(.str "PATH", .str "/")])]),
    single "sys" (texts [("version", "3")] ++ [("path", .list [.str "/"]),
      ("argv", .list [.str "main"]), ("modules", .dict [(.str "sys", .thing "module")])]),
    single "math" (things "float" ["pi", "e", "inf", "nan", "tau"]),
    single "string" (texts [("digits", "0123456789"), ("ascii_letters", "abc"),
      ("punctuation", "!")])] ++
  ["dataclasses", "enum", "functools", "inspect", "random", "secrets", "time",
    "types", "typing"].map (fun n => single n []) ++
  ["asyncio", "collections", "importlib", "json", "logging", "re"].flatMap
    fun n => package n true []

end OwnModules

end Gatehouse
