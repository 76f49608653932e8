/-!
# Kinds of cluster objects

The five kinds that scripts can work with: how the cluster calls them, where
it keeps them, and what scripts may do with them.
-/
namespace ClusterScript

inductive Resource
  | pod
  | service
  | deployment
  | replicaSet
  | daemonSet
deriving DecidableEq, Repr, Inhabited

namespace Resource

/-- `all_kinds`: the kinds, in the order of their classes. -/
def all : List Resource := [.pod, .service, .deployment, .replicaSet, .daemonSet]

/-- The name of the kind, and of the class of one object. -/
def kind : Resource → String
  | .pod => "Pod"
  | .service => "Service"
  | .deployment => "Deployment"
  | .replicaSet => "ReplicaSet"
  | .daemonSet => "DaemonSet"

/-- The class of a list of objects. -/
def listClass (r : Resource) : String := r.kind ++ "s"

/-- The function that reads one object. -/
def singular : Resource → String
  | .pod => "pod"
  | .service => "service"
  | .deployment => "deployment"
  | .replicaSet => "replicaset"
  | .daemonSet => "daemonset"

/-- The function that lists objects, and their name in addresses. -/
def plural (r : Resource) : String := r.singular ++ "s"

/-- The group that the kind belongs to; the core group has no name. -/
def group : Resource → String
  | .pod | .service => ""
  | .deployment | .replicaSet | .daemonSet => "apps"

def version : Resource → String := fun _ => "v1"

/-- `api_version`: the version with its group. -/
def apiVersion (r : Resource) : String :=
  if r.group = "" then r.version else r.group ++ "/" ++ r.version

/-- Whether scripts may create and delete objects. -/
def isMutable : Resource → Bool
  | .pod => true
  | _ => false

/-- Whether objects have pods of their own. -/
def findsPods : Resource → Bool
  | .pod => false
  | _ => true

/-- The kind of a name. -/
def ofKind? (name : String) : Option Resource := all.find? fun r => r.kind = name

end Resource

end ClusterScript
