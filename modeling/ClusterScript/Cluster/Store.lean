import ClusterScript.Cluster.Object
import ClusterScript.Fault
import ClusterScript.Query.Basic
import ClusterScript.Selector.Labels

/-!
# A cluster in memory

Objects in the order they came, logs by pod, and a record of what was listed
and deleted. At most one object of a kind has a given namespace and name, if
every object came through `create`; `get`, `list` and `delete` look at all
objects that have them.
-/
namespace ClusterScript

/-- The time that the store gives to what it creates. -/
def Store.creationTime : String := "2025-01-01T00:00:00Z"

/-- `FakeCluster`: objects in the order of their creation, logs, and what was asked. -/
structure Store where
  objects : List Json
  /-- Logs by namespace and pod, the latest first. -/
  logTexts : List ((String × String) × String)
  /-- What was asked of `list`, the latest first. -/
  listed : List (Option String × ListOptions)
  /-- Kind, namespace and name of what was deleted, the latest first. -/
  deleted : List (String × String × String)
deriving Inhabited

namespace Store

def empty : Store := ⟨[], [], [], []⟩

def hasKind (kind : String) (object : Json) : Bool := object.get "kind" == .str kind

/-- Whether an object is the one of a kind, a namespace and a name. -/
def isAt (r : Resource) (ns name : String) (object : Json) : Bool :=
  hasKind r.kind object && Object.namespaceName object = ns && Object.name object = name

/-- `not_found`: the fault of an object that is not there. -/
def notFound (r : Resource) (name : String) : Fault :=
  .cluster (r.plural ++ s!" \"{name}\" not found")

def alreadyExists (r : Resource) (name : String) : Fault :=
  .cluster (r.plural ++ s!" \"{name}\" already exists")

/-- `get`: an object by kind, namespace and name. -/
def get (s : Store) (r : Resource) (ns name : String) : Except Fault Json :=
  match s.objects.find? (isAt r ns name) with
  | some object => .ok object
  | none => .error (notFound r name)

/-- The objects of a kind, in a namespace or in all, that a label selector selects. -/
def select (s : Store) (r : Resource) (ns : Option String) (o : ListOptions) : List Json :=
  s.objects.filter fun object =>
    hasKind r.kind object && ns.all (fun n => Object.namespaceName object = n) &&
      Selector.holds o.labels ((object.get "metadata").get "labels")

/-- `list`: the objects that are selected; the options are kept. -/
def list (s : Store) (r : Resource) (ns : Option String) (o : ListOptions) :
    List Json × Store :=
  (s.select r ns o, { s with listed := (ns, o) :: s.listed })

/-- An object as the cluster keeps it. -/
def adopted (r : Resource) (ns : String) (object : Json) : Json :=
  let metadata : Json := match object.get "metadata" with
    | .obj members => .obj members
    | _ => Json.obj []
  let metadata := (metadata.put "namespace" (.str ns)).put "creationTimestamp"
    (.str creationTime)
  (object.put "kind" (.str r.kind)).put "metadata" metadata

/-- `create`: keeps a new object, unless there is one of its name. -/
def create (s : Store) (r : Resource) (ns : String) (object : Json) :
    Except Fault Json × Store :=
  let name := Object.name object
  if s.objects.any (isAt r ns name) then (.error (alreadyExists r name), s)
  else
    let created := adopted r ns object
    (.ok created, { s with objects := s.objects ++ [created] })

/-- `delete`: drops an object, and keeps what it was. -/
def delete (s : Store) (r : Resource) (ns name : String) : Except Fault Unit × Store :=
  if s.objects.any (isAt r ns name) then
    (.ok (), { s with
      objects := s.objects.filter fun o => !isAt r ns name o
      deleted := (r.kind, ns, name) :: s.deleted })
  else (.error (notFound r name), s)

/-- `logs`: the log of a pod. -/
def logs (s : Store) (ns pod : String) : Except Fault String :=
  match s.logTexts.lookup (ns, pod) with
  | some text => .ok text
  | none => .error (notFound .pod pod)

/-! ## Filling a store -/

/-- Adds the members of an object to those of another, which they replace. -/
def merge (target extra : Json) : Json :=
  (extra.members?.getD []).foldl (fun acc (k, v) => acc.put k v) target

/-- `with`: adds an object of a kind and name, with further members; those under `metadata` are
added to the ones there. -/
def seed (s : Store) (kind ns name : String) (extra : Json) : Store :=
  let base := Json.ofMembers
    [("apiVersion", .str "v1"), ("kind", .str kind),
      ("metadata", Json.ofMembers
        [("name", .str name), ("namespace", .str ns), ("creationTimestamp", .str creationTime)])]
  let object := (merge base (extra.remove "metadata")).put "metadata"
    (merge (base.get "metadata") (extra.get "metadata"))
  { s with objects := s.objects ++ [object] }

/-- `with_logs`: adds the log of a pod. -/
def seedLog (s : Store) (ns pod text : String) : Store :=
  { s with logTexts := ((ns, pod), text) :: s.logTexts }

/-- `count`: how many objects of a kind there are. -/
def count (s : Store) (kind : String) : Nat := s.objects.countP (hasKind kind)

end Store

end ClusterScript
