import ClusterScript.Output.Summary
import ClusterScript.Script.Converter
import ClusterScript.Script.Params
import ClusterScript.Script.Scope
import ClusterScript.Script.Selectors

/-!
# Queries and lists of objects

A query is read from the arguments of a call, its blocks being evaluated on
the way. A list keeps the query it came from and the objects that it found;
it can be asked again with the same query or another one.

* `queryOf`: the query of arguments.
* `Lists.itemAt`: the position that an index means, counted from either end.
-/
namespace ClusterScript.Script

/-- The parameters of a query. -/
def querySchema : ParamSchema :=
  ⟨"query", [⟨"labels", .stringOrBlock, false⟩, ⟨"fields", .stringOrBlock, false⟩]⟩

/-- Where a parameter's selector comes from. -/
def sourceOf (p : Params) (key : String) : Option (Query.Source Value) :=
  match p.lookup key with
  | some (.string s) => some (.literal s)
  | some (.block f) => some (.block f)
  | _ => none

/-- What a value is as an argument of a query. -/
def queryArgument (tables : Array Table) (v : Value) : Except Fault (Query.Argument Value) :=
  match v with
  | .text s => .ok (.glob s)
  | .bytes _ => do
    return .glob ((← v.hostText).getD "")
  | .closure _ | .host _ => .ok (.block v)
  | .table id =>
    let t := tables[id]?.getD .empty
    if t.length ≠ 0 then .ok .sequence
    else do
      let p ← querySchema.parse tables t
      return .params (sourceOf p "labels") (sourceOf p "fields")
  | v => .ok (.unsupported v.typeName)

/-- `decode_args`: the values as arguments of a query. -/
def queryArguments (tables : Array Table) :
    List Value → Except Fault (List (Query.Argument Value))
  | [] => .ok []
  | v :: rest => do
    let a ← queryArgument tables v
    let more ← queryArguments tables rest
    return a :: more

/-- `parse_lua`: the query that arguments ask for. -/
def queryOf [Library] (call : Caller) (args : List Value) : Run Query := do
  let decoded ← Run.lift (queryArguments (← get).tables args)
  Query.combine ⟨Run.refuse, fun kind block => evaluate call kind block⟩ decoded

/-- `fetch`: the objects that a query finds; names are filtered here. -/
def fetch [Library] (r : Resource) (q : Query) : Run (List Json) := do
  let ns := listNamespace (← Run.currentNamespace) q.scope
  let items ← Run.askCluster (Cluster.list r ns q.options)
  return items.filter fun o => q.matchesName (Object.name o)

/-- `new_list`: a new list of what a query finds. -/
def newList [Library] (r : Resource) (q : Query) : Run Value := do
  let items ← fetch r q
  return .instance (← Run.newInstanceOf r.listClass (.list q items))

def newObject (r : Resource) (object : Json) : Run Value := do
  return .instance (← Run.newInstanceOf r.kind (.object object))

def newObjects (r : Resource) : List Json → Run (List Value)
  | [] => return []
  | j :: rest => do
    let first ← newObject r j
    let more ← newObjects r rest
    return first :: more

/-- `to_lua`: a tree as a script value, numbers as the session wants them. -/
def treeValue (j : Json) : Run Value := do fromJson (← Run.host).numberMode j

namespace Lists

/-- `resolve_index`: the position that an index means in a list of `n`, from 0, or from -1
backwards. -/
def resolve (n : Nat) (i : Int) : Option Nat :=
  let j := if i < 0 then i + n else i
  if 0 ≤ j ∧ j < n then some j.toNat else none

/-- An index that is a whole number. -/
def indexOf (v : Value) : Except Refusal Int :=
  match v with
  | .int i => .ok i.toInt
  | .float x => if isWhole x then .ok x.toInt64.toInt else .error (.indexType v.typeName)
  | v => .error (.indexType v.typeName)

/-- `items`: the query and the objects of a list. -/
def contents (i : Instance) : Run (Query × List Json) := do
  match ← Run.lookup i with
  | .list q items => return (q, items)
  | _ => Run.notFound i

/-- `pick`: the object of a choice, or nil. -/
def wrap (r : Resource) (choice : Option Json) : Run (List Value) := do
  match choice with
  | some j => return [← newObject r j]
  | none => return [.nil]

def describe (items : List Json) : String :=
  if items.isEmpty then "No resources found"
  else Text.join "\n" (items.zipIdx.map fun (o, i) =>
    s!"{i}: " ++ Object.namespaceName o ++ "/" ++ Object.name o)

/-- Asks again, by the arguments if there are any. -/
def refresh [Library] (call : Caller) (r : Resource) (i : Instance) (args : List Value) :
    Run Unit := do
  let (q, _) ← contents i
  let q ← if args.isEmpty then pure q else queryOf call args
  let items ← fetch r q
  Run.update i (.list q items)

/-- The object of a random choice; no two choices are made with the same number of instances. -/
def anyOf [Library] (items : List Json) : Run (Option Json) := do
  let choice := Library.choose (← Run.registry).slots.size items.length
  return items[choice % items.length]?

/-- The object at an index. -/
def itemAt (r : Resource) (i : Instance) (args : List Value) : Run (List Value) := do
  let index ← match args with
    | v :: _ => Run.liftRefusal (indexOf v)
    | [] => Run.refuse (.indexType "nothing")
  let (_, items) ← contents i
  wrap r ((resolve items.length index).bind fun k => items[k]?)

def perform [Library] (call : Caller) (r : Resource) (i : Instance) (b : ListBody)
    (args : List Value) : Run (List Value) := do
  match b with
  | .refresh => do
    refresh call r i args
    return [.instance i]
  | .at => itemAt r i args
  | b => do
    let (_, items) ← contents i
    match b with
    | .describe => return [.text (describe items)]
    | .count => return [.ofNat items.length]
    | .first => wrap r items.head?
    | .any => do wrap r (← anyOf items)
    | .last => wrap r items.getLast?
    | .items => do return [← Run.newSequence (← newObjects r items)]
    | .names => do return [← Run.newSequence (items.map fun o => .text (Object.name o))]
    | .table => do
      return [.text ((Output.summary (← Run.host).now items).text true)]
    | .json => return [.text (Json.arr items).pretty]
    | .yaml => return [.text (Json.arr items).yaml]
    | _ => return [← treeValue (.arr items)]

def methods (r : Resource) : List Method :=
  let method (name : String) (b : ListBody) : Method := ⟨name, .exact 0, .list r b⟩
  [⟨"refresh", .any, .list r .refresh⟩, ⟨"get!", .any, .list r .refresh⟩,
    ⟨"at", .exact 1, .list r .at⟩, ⟨"[]", .exact 1, .list r .at⟩, method "to_s" .describe,
    method "inspect" .describe, method "count" .count, method "first" .first,
    method "last" .last, method "any" .any, method "items" .items, method "names" .names,
    method "table" .table, method "to_json" .json, method "to_yaml" .yaml,
    method "to_lua" .tree]

end Lists

end ClusterScript.Script
