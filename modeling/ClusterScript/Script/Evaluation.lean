import ClusterScript.Script.HostCall

/-!
# Running scripts

Statements and expressions are evaluated by recursion on their trees. Calls
go through a `Caller`, so a tree needs no bound; what bounds a run is how
deep calls may nest.

* `results`: the results of an expression.
* `runBlock`: runs statements, up to one that returns.
* `callAt`: calls values, where calls may nest a given number of times.
* `runChunk`: the results of a chunk.
-/
namespace ClusterScript.Script

/-- The locals in scope, innermost first, each with its cell. -/
abbrev Locals := List (String × Nat)

namespace Locals

/-- A new local with a value. -/
def declare (locals : Locals) (name : String) (v : Value) : Run Locals := modifyGet fun w =>
  ((name, w.cells.size) :: locals, { w with cells := w.cells.push v })

/-- Locals for the parameters of a function; the ones without an argument are nil. -/
def bind (locals : Locals) : List String → List Value → Run Locals
  | [], _ => return locals
  | p :: params, args => do
    let locals ← locals.declare p (firstOf args)
    locals.bind params args.tail

/-- The value of a local, else of a global. -/
def get (locals : Locals) (name : String) : Run Value := do
  match locals.lookup name with
  | some cell => return (← MonadState.get).cells[cell]?.getD .nil
  | none => Run.getIn Run.globals (.text name)

/-- Sets a local, else a global. -/
def set (locals : Locals) (name : String) (v : Value) : Run Unit := do
  match locals.lookup name with
  | some cell => modify fun w => { w with cells := w.cells.setIfInBounds cell v }
  | none => Run.setGlobal name v

end Locals

/-- A table around a table, `n` times around the value. -/
def nestTables : Nat → Value → Run Value
  | 0, v => return v
  | n + 1, v => do nestTables n (.table (← Run.newTable (.ofList [v])))

/-- Runs an action for numbers from `i` on, `n` of them, up to one that gives results. -/
def repeatFrom (act : Int64 → Run (Option α)) : Nat → Int64 → Run (Option α)
  | 0, _ => return none
  | n + 1, i => do
    match ← act i with
    | some r => return some r
    | none => repeatFrom act n (i + 1)

def newClosure (c : Closure) : Run Value := modifyGet fun w =>
  (.closure w.closures.size, { w with closures := w.closures.push c })

mutual

/-- The results of an expression: all those of a call, one of anything else. -/
def results (call : Caller) (locals : Locals) : Expr → Run (List Value)
  | .nil => return [.nil]
  | .bool b => return [.bool b]
  | .int i => return [.int i]
  | .float x => return [.float x]
  | .text s => return [.text s]
  | .bytes b => return [.ofBytes b]
  | .var name => return [← locals.get name]
  | .list items => do
    return [.table (← Run.newTable (.ofList (← valuesOf call locals items)))]
  | .table entries => do
    let id ← Run.newTable .empty
    setEntries call locals id entries
    return [.table id]
  | .nest depth inner => do
    return [← nestTables (max depth 1) (firstOf (← results call locals inner))]
  | .index object key => do
    let o := firstOf (← results call locals object)
    let k := firstOf (← results call locals key)
    return [← index call trapped o k]
  | .call function args => do
    let f := firstOf (← results call locals function)
    call f (← valuesOf call locals args)
  | .method object name args => do
    let o := firstOf (← results call locals object)
    let f ← index call trapped o (.text name)
    call f (o :: (← valuesOf call locals args))
  | .function params body => return [← newClosure ⟨params, body, locals⟩]
  | .equal a b => do
    let a := firstOf (← results call locals a)
    let b := firstOf (← results call locals b)
    return [.bool (a.equal b)]
  | .not e => do return [.bool !(firstOf (← results call locals e)).isTrue]
  | .length e => do return [← length call (firstOf (← results call locals e))]
  | .concat a b => do
    let a := firstOf (← results call locals a)
    let b := firstOf (← results call locals b)
    return [← concat a b]

/-- One value of each expression. -/
def valuesOf (call : Caller) (locals : Locals) : List Expr → Run (List Value)
  | [] => return []
  | e :: rest => do
    let v := firstOf (← results call locals e)
    let more ← valuesOf call locals rest
    return v :: more

/-- Sets the entries of a new table. -/
def setEntries (call : Caller) (locals : Locals) (id : Nat) : List Entry → Run Unit
  | [] => return ()
  | .mk key value :: rest => do
    let k := firstOf (← results call locals key)
    let v := firstOf (← results call locals value)
    assignIndex (.table id) k v
    setEntries call locals id rest

/-- Runs statements; the results of the first that returns. -/
def runBlock (call : Caller) (locals : Locals) : List Stmt → Run (Option (List Value))
  | [] => return none
  | .declare name value :: rest => do
    let v := firstOf (← results call locals value)
    runBlock call (← locals.declare name v) rest
  | .assign name value :: rest => do
    locals.set name (firstOf (← results call locals value))
    runBlock call locals rest
  | .assignIndex object key value :: rest => do
    let o := firstOf (← results call locals object)
    let k := firstOf (← results call locals key)
    let v := firstOf (← results call locals value)
    assignIndex o k v
    runBlock call locals rest
  | .ret [e] :: _ => do return some (← results call locals e)
  | .ret values :: _ => do return some (← valuesOf call locals values)
  | .run e :: rest => do
    let _ ← results call locals e
    runBlock call locals rest
  | .raise e :: _ => do Run.raise (firstOf (← results call locals e))
  | .branch condition yes no :: rest => do
    let v := firstOf (← results call locals condition)
    match ← if v.isTrue then runBlock call locals yes else runBlock call locals no with
    | some r => return some r
    | none => runBlock call locals rest
  | .loop name count body :: rest => do
    let round (i : Int64) : Run (Option (List Value)) := do
      runBlock call (← locals.declare name (.int i)) body
    match ← repeatFrom round count 1 with
    | some r => return some r
    | none => runBlock call locals rest

end

/-- The results of a chunk: of what stands behind `return` if it can, else of its
statements. -/
def runChunk (call : Caller) (c : Chunk) : Run (List Value) := do
  match c.expression? with
  | some e => results call [] e
  | none =>
    match c with
    | .block body => return (← runBlock call [] body).getD []
    | _ => Run.fault .unparsable

/-- Calls a value, where calls may nest so many times. -/
def callAt [Library] : Nat → Caller
  | 0, _, _ => throw .exhausted
  | depth + 1, f, args =>
    match f with
    | .closure id => do
      let c := (← get).closures[id]?.getD default
      let locals ← Locals.bind c.locals c.params args
      return (← runBlock (callAt depth) locals c.body).getD []
    | .host f => callHost (callAt depth) (runChunk (callAt depth)) f args
    | v => Run.complain s!"attempt to call a {v.operandType} value"

/-- How deep calls may nest. -/
def maxDepth : Nat := 2000

/-- Calls a value. -/
def callValue [Library] : Caller := callAt maxDepth

end ClusterScript.Script
