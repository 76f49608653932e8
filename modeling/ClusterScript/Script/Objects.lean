import ClusterScript.Cluster.Pod
import ClusterScript.Script.Lists

/-!
# Objects and pods

An object keeps the tree that the cluster gave, or that `make_pod` made. It
is addressed by its name and namespace; one without a namespace lies in that
of the session.

* `Objects.address`: namespace and name of an object.
* `makePod`: a pod from a table of parameters.
-/
namespace ClusterScript.Script

namespace Objects

def objectOf (i : Instance) : Run Json := do
  match ← Run.lookup i with
  | .object j => return j
  | _ => Run.notFound i

/-- `address`: namespace and name of an object in a session that stands in a namespace. -/
def address (current : String) (r : Resource) (object : Json) :
    Except Refusal (String × String) :=
  let name := Object.name object
  let ns := Object.namespaceName object
  if name = "" then .error (.nameless r.kind)
  else .ok (if ns = "" then defaultNamespace current else ns, name)

def addressOf (r : Resource) (object : Json) : Run (String × String) := do
  if Object.name object = "" then Run.refuse (.nameless r.kind)
  else if Object.namespaceName object ≠ "" then
    return (Object.namespaceName object, Object.name object)
  else Run.liftRefusal (address (← Run.currentNamespace) r object)

def describe (r : Resource) (object : Json) : String :=
  r.kind ++ " " ++ Object.namespaceName object ++ "/" ++ Object.name object

/-- The labels as a tree; empty if they are no object. -/
def labelTree (object : Json) : Json :=
  match (object.get "metadata").get "labels" with
  | .obj members => .obj members
  | _ => .obj []

/-- A test that a label has one of one value, for each label. -/
def labelExpressions : List (String × String) → Except Refusal (List Selector.Expression)
  | [] => .ok []
  | (k, v) :: rest => do
    let e ← Selector.Expression.make? k .isIn [v]
    let more ← labelExpressions rest
    return e :: more

/-- `finder_methods`: the query for the pods of an object. -/
def podQuery (ns : String) (labels : List (String × String)) : Except Refusal Query := do
  let text ← Selector.render .label (← labelExpressions labels)
  return ⟨.named ns, none, ⟨text, ""⟩⟩

/-- `finder_methods`: the pods that an object manages. -/
def pods [Library] (r : Resource) (object : Json) : Run Value := do
  let (ns, name) ← addressOf r object
  let labels ← Run.lift ((Object.podSelector r object).mapError Fault.conversion)
  if labels.isEmpty then Run.refuse (.noPodSelector r.kind ns name)
  else newList .pod (← Run.liftRefusal (podQuery ns labels))

def perform [Library] (r : Resource) (i : Instance) (b : ObjectBody) : Run (List Value) := do
  let object ← objectOf i
  match b with
  | .name => return [.text (Object.name object)]
  | .namespaceName => return [.text (Object.namespaceName object)]
  | .labels => return [← treeValue (labelTree object)]
  | .describe => return [.text (describe r object)]
  | .json => return [.text object.pretty]
  | .yaml => return [.text object.yaml]
  | .tree => return [← treeValue object]
  | .pods => return [← pods r object]
  | .refresh => do
    let (ns, name) ← addressOf r object
    let fresh ← Run.askCluster (Cluster.get r ns name)
    Run.update i (.object fresh)
    return [.instance i]
  | .create => do
    let (ns, _) ← addressOf r object
    let created ← Run.askCluster (Cluster.create r ns object)
    Run.update i (.object created)
    return [.instance i]
  | .delete => do
    let (ns, name) ← addressOf r object
    Run.askCluster (Cluster.delete r ns name)
    return [.bool true]
  | .logs => do
    let (ns, name) ← addressOf .pod object
    return [.instance (← Run.newInstanceOf "PodLogs" (.logs ns name none))]

/-- `object_methods`: methods of every kind. -/
def methods (r : Resource) : List Method :=
  let method (name : String) (b : ObjectBody) : Method := ⟨name, .exact 0, .object r b⟩
  [method "refresh" .refresh, method "get!" .refresh, method "to_s" .describe,
    method "inspect" .describe, method "name" .name, method "namespace" .namespaceName,
    method "labels" .labels, method "to_json" .json, method "to_yaml" .yaml,
    method "to_lua" .tree]

/-- Methods of kinds that can be created and deleted. -/
def mutableMethods (r : Resource) : List Method :=
  let method (name : String) (b : ObjectBody) : Method := ⟨name, .exact 0, .object r b⟩
  [method "create" .create, method "create!" .create, method "delete" .delete,
    method "delete!" .delete]

/-- Methods of kinds that manage pods. -/
def finderMethods (r : Resource) : List Method := [⟨"pods", .exact 0, .object r .pods⟩]

/-- Methods of pods alone. -/
def podMethods : List Method := [⟨"logs", .exact 0, .object .pod .logs⟩]

/-- What a text means as the name of an object: the namespace it names, unless that is empty
or all of them, and the name. -/
def target (current : String) (s : String) : String × String :=
  match Text.splitOnce "/" s with
  | some (ns, name) =>
    if ns ≠ allNamespaces ∧ ns ≠ "" then (ns, name) else (defaultNamespace current, name)
  | none => (defaultNamespace current, s)

/-- The object that a call names. -/
def find [Library] (r : Resource) (args : List Value) : Run Value := do
  match args with
  | [v] =>
    match ← Run.lift v.hostText with
    | some s => do
      let (ns, name) := target (← Run.currentNamespace) s
      newObject r (← Run.askCluster (Cluster.get r ns name))
    | none => Run.refuse (.objectName r.singular)
  | _ => Run.refuse (.objectName r.singular)

end Objects

/-- `pod_schema`: the parameters of `make_pod`. -/
def podSchema : ParamSchema :=
  ⟨"make_pod",
    [⟨"image", .string, true⟩, ⟨"name", .string, false⟩, ⟨"namespace", .string, false⟩,
      ⟨"labels", .stringMap, false⟩, ⟨"env", .stringMap, false⟩,
      ⟨"command", .stringList, false⟩]⟩

/-- `make_pod`: a pod from the argument of a call, not yet in the cluster. -/
def makePod (args : List Value) : Run Value := do
  match args with
  | [.table id] => do
    let w ← get
    let p ← Run.lift (podSchema.parse w.tables (w.tables[id]?.getD .empty))
    let pod ← Run.liftRefusal (PodParameters.pod
      ⟨(p.string? "image").getD "", p.string? "name", p.string? "namespace", p.map? "labels",
        p.map? "env", p.list? "command"⟩)
    newObject .pod pod
  | _ => Run.refuse .podParameters

end ClusterScript.Script
