import ClusterScript.Script.Logs
import ClusterScript.Script.Objects
import ClusterScript.Script.Classes

/-!
# The engine's globals

The globals that every script finds: the functions and libraries of the
engine, the table of all classes, and what a session adds to them.

* `bare`: the world of an engine whose registry is empty.
* `installed`: the world of an engine with the classes and functions of a
  session.
-/
namespace ClusterScript.Script.Engine

/-- The functions that scripts call. -/
def functions : List (String × HostFunction) :=
  [("tostring", .tostring), ("type", .typeOf), ("pcall", .protectedCall), ("print", .print),
    ("error", .error)]

/-- The functions of the engine that are there by name only. -/
def otherFunctions : List String :=
  ["assert", "collectgarbage", "dofile", "getmetatable", "ipairs", "load", "loadfile", "next",
    "pairs", "rawequal", "rawget", "rawlen", "rawset", "require", "select", "setmetatable",
    "tonumber", "warn", "xpcall"]

/-- The libraries with the names of their functions. -/
def libraries : List (String × List String) :=
  [("coroutine",
      ["close", "create", "isyieldable", "resume", "running", "status", "wrap", "yield"]),
    ("io", ["close", "flush", "input", "lines", "open", "output", "popen", "read", "tmpfile",
      "type", "write"]),
    ("math", ["abs", "acos", "asin", "atan", "ceil", "cos", "deg", "exp", "floor", "fmod", "log",
      "max", "min", "modf", "rad", "random", "randomseed", "sin", "sqrt", "tan", "tointeger",
      "type", "ult"]),
    ("os", ["clock", "date", "difftime", "execute", "exit", "getenv", "remove", "rename",
      "setlocale", "time", "tmpname"]),
    ("package", ["loadlib", "searchpath"]),
    ("string", stringMembers),
    ("table", ["concat", "insert", "move", "pack", "remove", "sort", "unpack"]),
    ("utf8", ["char", "codepoint", "codes", "len", "offset"])]

/-- The ratio of a circle's circumference to its diameter. -/
def pi : Binary64 := ⟨0x400921FB54442D18⟩

/-- Members of libraries that are no functions. -/
def constants : List (String × String × Value) :=
  [("io", "stdin", .foreign), ("io", "stdout", .foreign), ("io", "stderr", .foreign),
    ("math", "pi", .float pi), ("math", "huge", .float (.infinity false)),
    ("math", "maxinteger", .int (Int64.ofInt (Power.signedLimit - 1))),
    ("math", "mininteger", .int (Int64.ofInt (-Power.signedLimit))),
    ("package", "config", .text "/\n;\n?\n!\n-\n"), ("package", "path", .text "./?.lua"),
    ("package", "cpath", .text "./?.so"),
    ("utf8", "charpattern", .bytes [0x5B, 0, 0x2D, 0x7F, 0xC2, 0x2D, 0xFD, 0x5D, 0x5B, 0x80, 0x2D,
      0xBF, 0x5D, 0x2A])]

/-- A library as a table. -/
def libraryTable (name : String) (members : List String) : Table where
  entries := (members.map fun m => (Value.text m, Value.host (.library s!"{name}.{m}"))) ++
    (constants.filter fun c => c.1 = name).map fun c => (Value.text c.2.1, c.2.2)
  isArray := false

def setLibraries : List (String × List String) → Run Unit
  | [] => return ()
  | (name, members) :: rest => do
    Run.setGlobal name (.table (← Run.newTable (libraryTable name members)))
    setLibraries rest

def setFunctions : List (String × HostFunction) → Run Unit
  | [] => return ()
  | (name, f) :: rest => do
    Run.setGlobal name (.host f)
    setFunctions rest

/-- Sets the engine's own globals. -/
def setGlobals : Run Unit := do
  Run.setGlobal "_G" (.table Run.globals)
  Run.setGlobal "_VERSION" (.text "Lua 5.4")
  setFunctions (functions ++ otherFunctions.map fun name => (name, .library name))
  setLibraries libraries

/-- An engine before it has any globals; the table of globals and that of all classes are
empty. -/
def blank (host : Option Host) : World :=
  ⟨#[.empty, .empty], #[], #[], .empty 1, host, ""⟩

/-- What a world becomes by an action that sets it up. -/
def after (w : World) (setUp : Run Unit) : World :=
  match setUp.run w with
  | .ok _ w => w
  | .error _ w => w

def start : Run Unit := do
  setGlobals
  Run.setGlobal Registry.rootName (.table (← Run.registry).root)

/-- An engine with an empty registry and no session. -/
def bare : World := after (blank none) start

/-! ## What a session adds -/

open Selector (Kind)

/-- `install`: defines the classes of one kind of selectors. -/
def defineSelectors (kind : Kind) : Run Unit := do
  let key ← Classes.define (keyClass kind) (Selectors.keyMethods kind)
  Classes.setTrap key (.path kind)
  let collector ← Classes.define (collectorClass kind) (Selectors.collectorMethods kind)
  Classes.setTrap collector .key
  let _ ← Classes.define (selectorClass kind) (Selectors.selectorMethods kind)

/-- `install_verbs`: defines the classes of a resource and the functions that query it. -/
def defineResource (r : Resource) : Run Unit := do
  let _ ← Classes.define r.listClass (Lists.methods r)
  let id ← Classes.define r.kind (Objects.methods r)
  if r.isMutable then Classes.append id (Objects.mutableMethods r)
  if r.findsPods then Classes.append id (Objects.finderMethods r)
  Run.setGlobal r.plural (.host (.list r))
  Run.setGlobal r.singular (.host (.object r))

def defineResources : List Resource → Run Unit
  | [] => return ()
  | r :: rest => do
    defineResource r
    defineResources rest

/-- `install_globals`: adds the classes and functions of a session. -/
def install : Run Unit := do
  start
  defineSelectors .label
  defineSelectors .field
  setFunctions [("labels", .selector .label), ("fields", .selector .field)]
  defineResources Resource.all
  let pod ← Run.lift ((← Run.registry).requireClass Resource.pod.kind)
  Classes.append pod Objects.podMethods
  Run.setGlobal "make_pod" (.host .makePod)
  let _ ← Classes.define "PodLogs" Logs.methods
  setFunctions
    [("namespace", .setNamespace), ("getenv", .getenv), ("import", .importFile)]

/-- The world of a session. -/
def installed (host : Host) : World := after (blank (some host)) install

end ClusterScript.Script.Engine
