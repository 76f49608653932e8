import ClusterScript.Script.Flatten
import ClusterScript.Script.Operations

/-!
# Selector blocks

A selector is built by a function, its block, that is given a collector. The
members of a collector are keys; comparing a key reports an expression to the
list of its collector. One block serves both passes of a query: in the pass
for labels the matches of field paths are dropped, in the pass for fields
those of labels.

* `evaluate`: the selector text of a block.
* `Selectors.perform`: the methods of keys, collectors and selectors.
-/
namespace ClusterScript.Script

open Selector (Kind)

/-- `key_class`: the class of the keys of a kind. -/
def keyClass : Kind → String
  | .label => "LabelKey"
  | .field => "FieldKey"

/-- `collector_class`: the class of its collectors. -/
def collectorClass : Kind → String
  | .label => "LabelCollector"
  | .field => "FieldCollector"

/-- `selector_class`: the class of its selectors. -/
def selectorClass : Kind → String
  | .label => "LabelSelector"
  | .field => "FieldSelector"

/-- `WELL_KNOWN_KEYS`: keys that every collector has from the start. -/
def wellKnownKeys : List String :=
  ["app", "name", "org", "owner", "project", "revision", "service", "team", "tier", "v",
    "version"]

namespace Selectors

/-- `block_arg`: the one argument of a constructor, a function. -/
def blockArgument (args : List Value) : Run Value :=
  match args with
  | [f] => if f.isFunction then return f else Run.refuse (.blockType f.typeName)
  | _ => Run.refuse (.blockCount args.length)

/-- `new_key`: a new key with its path. -/
def newKey (kind : Kind) (path : List String) (sink : Sink) : Run Value := do
  return .instance (← Run.newInstanceOf (keyClass kind) (.key path sink))

/-- `sink`: where a collector of one kind sends the matches of keys of another. -/
def sinkFor (collector key : Kind) (list : Nat) : Sink :=
  if collector = key then .record list else .discard

/-- One key of the collector that is being made, for each name. -/
def makeKnown (sink : Sink) : List String → Run (List (String × Instance))
  | [] => return []
  | name :: rest => do
    let key ← Run.newInstanceOf (keyClass .label) (.key [name] sink)
    let more ← makeKnown sink rest
    return (name, key) :: more

/-- `new_collector`: a collector that a block has been run on, and the list of its expressions. -/
def newCollector (call : Caller) (kind : Kind) (block : Value) : Run (Instance × Nat) := do
  let (list, r) := (← Run.registry).newRecording
  Run.setRegistry r
  let known ← makeKnown (sinkFor kind .label list) wellKnownKeys
  let collector ← Run.newInstanceOf (collectorClass kind) (.collector kind list known)
  let _ ← callFromHost call block [.instance collector]
  return (collector, list)

/-- `new_selector`: the selector of a block, and its text. -/
def newSelector (call : Caller) (kind : Kind) (block : Value) : Run (Value × String) := do
  let (_, list) ← newCollector call kind block
  let expressions := (← Run.registry).recording list
  let rendered ← Run.liftRefusal (Selector.render kind expressions)
  let i ← Run.newInstanceOf (selectorClass kind) (.selector expressions rendered)
  return (.instance i, rendered)

/-- Reports an expression. -/
def report (sink : Sink) (e : Selector.Expression) : Run Unit := do
  match sink with
  | .record list => Run.setRegistry ((← Run.registry).record list e)
  | .discard => return ()
  | .detached name => Run.refuse (.detachedKey name)

def liftFlatten : Except FlattenStop α → Run α
  | .ok v => return v
  | .error (.fault f) => Run.fault f
  | .error .tooDeep => throw .overflowed

/-- `match_method`: compares a key with operands. -/
def compare (i : Instance) (operator : Selector.Operator) (args : List Value) : Run Unit := do
  match ← Run.lookup i with
  | .key path sink => do
    let values ← liftFlatten (operands (← get).tables args)
    let e ← Run.liftRefusal (Selector.Expression.make? (Text.join "." path) operator values)
    report sink e
  | _ => Run.notFound i

/-- The text of the first argument, if it is a scalar. -/
def nameArgument (args : List Value) : Run (Option String) :=
  match args with
  | [] => return none
  | v :: _ => Run.lift (scalarText v)

/-- `key_method`: a key of a collector by name; points in the name separate the parts of its path.
-/
def makeKey (i : Instance) (wanted : Kind) (args : List Value) : Run Value := do
  match ← Run.lookup i with
  | .collector kind list _ => do
    match ← nameArgument args with
    | none => Run.refuse .blankKeyName
    | some name =>
      if Text.blank name then Run.refuse .blankKeyName
      else newKey wanted (Text.splitOn '.' name) (sinkFor kind wanted list)
  | _ => Run.notFound i

/-- A key that belongs to no collector. -/
def newDetachedKey (kind : Kind) (args : List Value) : Run Value := do
  match ← nameArgument args with
  | some name => newKey kind [name] (.detached name)
  | none => Run.refuse .keyNameType

/-- The methods that have a receiver. -/
def performOn (i : Instance) (b : SelectorBody) (args : List Value) : Run (List Value) := do
  match b with
  | .compare operator => do
    compare i operator args
    return []
  | .makeKey wanted => return [← makeKey i wanted args]
  | .keyText =>
    match ← Run.lookup i with
    | .key path _ => return [.text (Text.join "." path)]
    | _ => Run.notFound i
  | .collectorText =>
    match ← Run.lookup i with
    | .collector kind list _ =>
      return [.text (← Run.liftRefusal
        (Selector.render kind ((← Run.registry).recording list)))]
    | _ => Run.notFound i
  | .selectorText =>
    match ← Run.lookup i with
    | .selector _ rendered => return [.text rendered]
    | _ => Run.notFound i
  | .count =>
    match ← Run.lookup i with
    | .selector expressions _ => return [.ofNat expressions.length]
    | _ => Run.notFound i
  | .newKey _ | .newCollector _ | .newSelector _ => return []

/-- The methods of the classes themselves. -/
def performFor (call : Caller) (b : SelectorBody) (args : List Value) : Run (List Value) := do
  match b with
  | .newKey kind => return [← newDetachedKey kind args]
  | .newCollector kind => do
    let (i, _) ← newCollector call kind (← blockArgument args)
    return [.instance i]
  | .newSelector kind => return [(← newSelector call kind (← blockArgument args)).1]
  | _ => return []

/-- A longer path: on a label key it is a field path, whose matches are dropped. -/
def extendPath (kind : Kind) (i : Instance) (name : String) : Run Value := do
  match ← Run.lookup i with
  | .key path sink =>
    newKey kind (path ++ [name]) (match kind with
      | .field => sink
      | .label => .discard)
  | _ => Run.notFound i

/-- A key of a collector: one that it has, or a new one. -/
def collectorKey (i : Instance) (name : String) : Run Value := do
  match ← Run.lookup i with
  | .collector kind list known =>
    match known.lookup name with
    | some key => return .instance key
    | none => newKey kind [name] (.record list)
  | _ => Run.notFound i

/-! ## The classes -/

/-- `LABEL_MATCHERS`: the methods that compare labels. -/
def labelMatchers : List (String × Selector.Operator) :=
  [("in", .isIn), ("is_in", .isIn), ("within", .isIn), ("notin", .notIn), ("not_in", .notIn),
    ("is_not_in", .notIn), ("exists", .present), ("any", .present), ("is_set", .present),
    ("defined", .present), ("present", .present), ("anything", .present),
    ("is_present", .present), ("equals", .equals), ("eq", .equals), ("is", .equals),
    ("not_equals", .notEquals), ("ne", .notEquals), ("is_not", .notEquals)]

/-- `FIELD_MATCHERS`: the methods that compare fields. -/
def fieldMatchers : List (String × Selector.Operator) :=
  [("equals", .equals), ("eq", .equals), ("is", .equals), ("in", .isIn), ("is_in", .isIn),
    ("not_equals", .notEquals), ("ne", .notEquals), ("is_not", .notEquals), ("notin", .notIn),
    ("not_in", .notIn)]

def matchers : Kind → List (String × Selector.Operator)
  | .label => labelMatchers
  | .field => fieldMatchers

/-- `define_key`: the methods of keys. -/
def keyMethods (kind : Kind) : List Method :=
  (matchers kind).map (fun (name, operator) => ⟨name, .any, .selector (.compare operator)⟩) ++
    [⟨"to_s", .exact 0, .selector .keyText⟩, ⟨"new", .exact 1, .selector (.newKey kind)⟩]

/-- `define_collector`: the methods of collectors. -/
def collectorMethods (kind : Kind) : List Method :=
  [⟨"label", .exact 1, .selector (.makeKey .label)⟩,
    ⟨"field", .exact 1, .selector (.makeKey .field)⟩,
    ⟨"to_s", .exact 0, .selector .collectorText⟩,
    ⟨"new", .any, .selector (.newCollector kind)⟩]

/-- `define_selector`: the methods of selectors. -/
def selectorMethods (kind : Kind) : List Method :=
  [⟨"inspect", .exact 0, .selector .selectorText⟩, ⟨"to_s", .exact 0, .selector .selectorText⟩,
    ⟨"count", .exact 0, .selector .count⟩, ⟨"new", .any, .selector (.newSelector kind)⟩]

end Selectors

/-- `evaluate`: the selector text of a block. -/
def evaluate (call : Caller) (kind : Kind) (block : Value) : Run String := do
  return (← Selectors.newSelector call kind block).2

end ClusterScript.Script
