import ClusterScript.Cluster.Basic
import ClusterScript.FileTree
import ClusterScript.Registry.Basic
import ClusterScript.Script.Tree
import ClusterScript.Time.Timestamp

/-!
# The world of a script

Everything a script can change: tables, locals, closures, the registry, the
state of the session and what was printed. An action runs in a world; it
ends with a value, with a raised value, because calls nest too deep, or with
the process it is in.

* `Run`: actions.
* `Run.fault`: raises an error of the host.
-/
namespace ClusterScript.Script

structure Closure where
  params : List String
  body : List Stmt
  /-- The locals in scope, innermost first. -/
  locals : List (String × Nat)
deriving Inhabited

/-- How numbers of objects reach a script. -/
inductive NumberMode
  | native
  /-- As texts with six places after the point. -/
  | decimalString
deriving DecidableEq, Repr, Inhabited

/-- What a session adds to the engine. -/
structure Host where
  cluster : Cluster
  /-- The current namespace, `*` for all of them. -/
  currentNamespace : String
  numberMode : NumberMode
  now : Timestamp
  files : FileTree
  environment : List (String × String)
deriving Inhabited

structure World where
  tables : Array Table
  cells : Array Value
  closures : Array Closure
  registry : Registry
  /-- Absent on an engine without a session. -/
  host : Option Host
  output : String
deriving Inhabited

/-- How an action ends without a value. -/
inductive Halt
  | raised (v : Value)
  | exhausted
  /-- The native stack has overflowed: the process ends, and nothing can handle that. -/
  | overflowed

abbrev Run := EStateM Halt World

/-- Calls a function with arguments, for its results. -/
abbrev Caller := Value → List Value → Run (List Value)

namespace Run

def raise (v : Value) : Run α := throw (.raised v)

def fault (f : Fault) : Run α := raise (.fault f)

def refuse (r : Refusal) : Run α := fault (.refused r)

/-- An error of the engine, which scripts see as its text. -/
def complain (text : String) : Run α := raise (.text text)

/-- Raises the fault of a failed computation. -/
def lift : Except Fault α → Run α
  | .ok v => pure v
  | .error f => fault f

def liftRefusal : Except Refusal α → Run α
  | .ok v => pure v
  | .error r => refuse r

/-! ## Tables -/

/-- The number of the table of globals. -/
def globals : Nat := 0

def newTable (t : Table) : Run Nat := modifyGet fun w =>
  (w.tables.size, { w with tables := w.tables.push t })

def table (id : Nat) : Run Table := do return (← get).tables[id]?.getD .empty

def getIn (id : Nat) (key : Value) : Run Value := do return (← table id).get key

/-- Sets the value at a key that is known to be one. -/
def setIn (id : Nat) (key value : Value) : Run Unit := modify fun w =>
  { w with tables := w.tables.modify id fun t => t.set key value }

def setGlobal (name : String) (value : Value) : Run Unit := setIn globals (.text name) value

/-- A table of a sequence. -/
def newSequence (values : List Value) : Run Value := do
  return .table (← newTable (.ofList values))

/-! ## Registry and session -/

def registry : Run Registry := do return (← get).registry

def setRegistry (r : Registry) : Run Unit := modify fun w => { w with registry := r }

def lookup (i : Instance) : Run InstanceState := do lift ((← registry).lookup i)

def update (i : Instance) (state : InstanceState) : Run Unit := do
  setRegistry ((← registry).update i state)

/-- The fault of an instance whose state is not of the wanted sort. -/
def notFound (i : Instance) : Run α := do fault ((← registry).notFound i)

def newInstance (cls : Nat) (state : InstanceState) : Run Instance := do
  let (i, r) ← lift ((← registry).allocate cls state)
  setRegistry r
  return i

/-- A new instance of a class given by name. -/
def newInstanceOf (name : String) (state : InstanceState) : Run Instance := do
  newInstance (← lift ((← registry).requireClass name)) state

def host : Run Host := do
  match (← get).host with
  | some h => return h
  | none => fault (.classDefinition "session state is not installed")

def setHost (h : Host) : Run Unit := modify fun w => { w with host := some h }

/-- Asks the cluster. -/
def askCluster (f : Cluster → Except Fault α × Cluster) : Run α := do
  let h ← host
  let (result, cluster) := f h.cluster
  setHost { h with cluster }
  lift result

def print (text : String) : Run Unit := modify fun w => { w with output := w.output ++ text }

end Run

/-! ## Strings that hosts take -/

/-- The text of a string value. -/
def Value.hostText (v : Value) : Except Fault (Option String) :=
  match v with
  | .text s => .ok (some s)
  | .bytes b =>
    match Text.decode b with
    | .ok s => .ok (some s)
    | .error m => .error (.coercion (.notText m))
  | _ => .ok none

/-- A string or a number as text. -/
def Value.coerced (v : Value) : Except Coercion String :=
  match v.string? with
  | some (.text s) => .ok s
  | some (.bytes b) =>
    match Text.decode b with
    | .ok s => .ok s
    | .error m => .error (.notText m)
  | _ => .error (.notString v.typeName)

end ClusterScript.Script
