import ClusterScript.Script.Logs
import ClusterScript.Script.Notation
import ClusterScript.Script.Objects
import ClusterScript.Script.Tally

/-!
# Calls of host functions

What the functions of the host do: the methods of classes, the functions of a
session, and the few functions of the engine that scripts call.

* `callMethod`: checks receiver and arity, then runs the body.
* `callHost`: any host function.
-/
namespace ClusterScript.Script

/-- `index`: a member that the class of an instance does not define. -/
def trapped : TrapHandler := fun trap i name =>
  match trap with
  | .path kind => Selectors.extendPath kind i name
  | .key => Selectors.collectorKey i name
  | .tally => Tally.member i name

/-- Runs the body of a method on its receiver. -/
def performOn [Library] (call : Caller) (i : Instance) (b : Body) (args : List Value) :
    Run (List Value) := do
  match b with
  | .selector b => Selectors.performOn i b args
  | .list r b => Lists.perform call r i b args
  | .object r b => Objects.perform r i b
  | .logs b => Logs.perform i b args
  | .tally _ b => Tally.performOn i b args
  | .objectCount _ => return []

/-- Runs the body of a method that has no receiver. -/
def performFor (call : Caller) (b : Body) (args : List Value) : Run (List Value) := do
  match b with
  | .objectCount cls =>
    return [.ofNat (← Run.lift ((← Run.registry).cls cls)).objectCount]
  | .selector b => Selectors.performFor call b args
  | .tally cls b => Tally.performFor cls b args
  | _ => return []

/-- `bind`: calls a method: first the receiver has to fit, then the number of arguments. -/
def callMethod [Library] (call : Caller) (m : BoundMethod) (args : List Value) :
    Run (List Value) := do
  match m.method.body.kind with
  | .ofInstance =>
    match m.receiver? args with
    | none => Run.refuse (.wrongReceiver m.qualifiedName m.className)
    | some (i, rest) => do
      Run.liftRefusal (m.checkArity rest.length)
      performOn call i m.method.body rest
  | .ofClass => do
    let args := m.withoutOwnTable args
    Run.liftRefusal (m.checkArity args.length)
    performFor call m.method.body args

/-! ## Functions of a session -/

/-- The first argument as text. -/
def pathArgument (args : List Value) : Run String :=
  match (firstOf args).coerced with
  | .ok s => return s
  | .error c => Run.fault (.badArgument 1 c)

/-- Shows the current namespace, after it was switched if there is an argument. -/
def switchNamespace (args : List Value) : Run Value := do
  let requested ← match args with
    | [] | .nil :: _ => pure none
    | [v] => do
      match ← Run.lift v.hostText with
      | some s => pure (some s)
      | none => Run.refuse .namespaceArgument
    | _ => Run.refuse .namespaceArgument
  if let some s := requested then Run.setNamespace s
  return .text (← Run.currentNamespace)

/-- A variable of the environment; empty if it is not set. -/
def environmentVariable (args : List Value) : Run Value := do
  let name ← pathArgument args
  return .text (((← Run.host).environment.lookup name).getD "")

/-- Runs a script file for its results. -/
def importFile (runChunk : Chunk → Run (List Value)) (args : List Value) :
    Run (List Value) := do
  let path ← pathArgument args
  match (← Run.host).files.readText path with
  | .ok source => runChunk (.ofText source)
  | .error f => Run.refuse (.cannotImport path f.message)

/-! ## Functions of the engine -/

/-- Refuses to go without a first argument. -/
def needsValue (function : String) : Run α :=
  Run.complain s!"bad argument #1 to '{function}' (value expected)"

/-- Calls a function; what it raises becomes a result. -/
def protect (call : Caller) (f : Value) (args : List Value) : Run (List Value) :=
  tryCatch (do return .bool true :: (← call f args)) fun
    | .raised v => return [.bool false, v]
    | .exhausted => return [.bool false, .text "stack overflow"]
    | .overflowed => throw .overflowed

/-- Prints values with tabs between them. -/
def printAll (call : Caller) : List Value → Run Unit
  | [] => return ()
  | v :: rest => do
    Run.print (Text.lenient (← display call v).bytesOf)
    Run.print (if rest.isEmpty then "" else "\t")
    printAll call rest

def callEngine (call : Caller) (f : HostFunction) (args : List Value) : Run (List Value) := do
  match f, args with
  | .tostring, v :: _ => return [← display call v]
  | .tostring, [] => needsValue "tostring"
  | .typeOf, v :: _ => return [.text v.scriptType]
  | .typeOf, [] => needsValue "type"
  | .protectedCall, f :: rest => protect call f rest
  | .protectedCall, [] => needsValue "pcall"
  | .print, args => do
    printAll call args
    Run.print "\n"
    return []
  | .error, args => Run.raise (firstOf args)
  | _, _ => return []

/-- Calls a host function; `runChunk` runs imported scripts. -/
def callHost [Library] (call : Caller) (runChunk : Chunk → Run (List Value)) (f : HostFunction)
    (args : List Value) : Run (List Value) := do
  match f with
  | .method id =>
    match (← Run.registry).bound[id]? with
    | some m => callMethod call m args
    | none => return []
  | .selector kind =>
    return [(← Selectors.newSelector call kind (← Selectors.blockArgument args)).1]
  | .list r => return [← newList r (← queryOf call args)]
  | .object r => return [← Objects.find r args]
  | .makePod => return [← makePod args]
  | .setNamespace => return [← switchNamespace args]
  | .getenv => return [← environmentVariable args]
  | .importFile => importFile runChunk args
  | f => callEngine call f args

end ClusterScript.Script
