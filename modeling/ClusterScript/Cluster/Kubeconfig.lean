import ClusterScript.FileTree
import ClusterScript.Json.Reader

/-!
# Which cluster to talk to

A kubeconfig lists clusters, users and contexts by name; a context joins a
cluster, perhaps a user, and perhaps a namespace. It is written as JSON.

* `Kubeconfig.ofJson`: the lists of a tree.
* `Kubeconfig.target`: the cluster and namespace of a context.
-/
namespace ClusterScript

/-- A list element: a name and what it names. -/
structure Named (α : Type) where
  name : String
  value : Option α
deriving DecidableEq, Repr

/-- The value under the first element of a name. -/
def Named.find? (l : List (Named α)) (name : String) : Option α :=
  (l.find? fun e => e.name = name).bind (·.value)

structure ClusterEntry where
  server : Option String
deriving DecidableEq, Repr

structure ContextEntry where
  cluster : String
  user : Option String
  namespaceName : Option String
deriving DecidableEq, Repr

structure Kubeconfig where
  clusters : List (Named ClusterEntry)
  users : List (Named Unit)
  contexts : List (Named ContextEntry)
  current : Option String
deriving DecidableEq, Repr

/-- Where a context leads. -/
structure Target where
  context : String
  server : String
  namespaceName : String
deriving DecidableEq, Repr

/-- Why a context leads nowhere. -/
inductive KubeconfigFault
  | unreadable (path : String) (cause : FileFault)
  | unparsable (cause : String)
  | malformed (m : Mismatch)
  | noContext
  | unknownContext (context : String)
  /-- A context that is listed without what it joins. -/
  | emptyContext (context : String)
  | unknownCluster (context cluster : String)
  | unknownUser (context user : String)
  | noServer (context : String)
deriving DecidableEq, Repr

namespace KubeconfigFault

def unusable (context : String) : String := s!"Failed to load kubeconfig for context '{context}'"

def message : KubeconfigFault → String
  | .unreadable path cause =>
    s!"Failed to read kubeconfig: failed to read kubeconfig from '\"{path}\"': " ++
      cause.message ++ ": " ++ cause.message
  | .unparsable cause =>
    s!"Failed to read kubeconfig: failed to parse kubeconfig: {cause}: {cause}"
  | .malformed m =>
    "Failed to read kubeconfig: the structure of the parsed kubeconfig is invalid: " ++
      m.message ++ ": " ++ m.message
  | .noContext => "No context specified and no current context in kubeconfig"
  | .unknownContext context => s!"Context '{context}' not found in kubeconfig"
  | .emptyContext context => unusable context ++ s!": failed to load current context: {context}"
  | .unknownCluster context cluster =>
    unusable context ++ s!": failed to load the cluster of context: {cluster}"
  | .unknownUser context user => unusable context ++ s!": failed to find named user: {user}"
  | .noServer context => unusable context ++ ": cluster url is missing on selected cluster"

end KubeconfigFault

namespace Kubeconfig

def wrongType (wanted : String) (j : Json) : Except Mismatch α :=
  .error (.type (Found.ofJson j) wanted)

def text (j : Json) : Except Mismatch String :=
  match j with
  | .str s => .ok s
  | _ => wrongType "a string" j

/-- Reads a member that is there; null counts as absent. -/
def optional (read : Json → Except Mismatch α) (name : String) (j : Json) :
    Except Mismatch (Option α) :=
  match j.get name with
  | .null => .ok none
  | v => (read v).map some

def required (read : Json → Except Mismatch α) (name : String) (j : Json) :
    Except Mismatch α := do
  match ← optional read name j with
  | some v => return v
  | none => throw (.missing name)

/-- Reads an object, the members by `read`. -/
def record (wanted : String) (read : Json → Except Mismatch α) (j : Json) : Except Mismatch α :=
  match j with
  | .obj _ => read j
  | _ => wrongType wanted j

/-- Reads a list; null counts as an empty one. -/
def list (read : Json → Except Mismatch α) (name : String) (j : Json) :
    Except Mismatch (List α) := do
  let items (v : Json) : Except Mismatch (List α) := match v with
    | .arr l => l.mapM read
    | _ => wrongType "a sequence" v
  return (← optional items name j).getD []

/-- Reads an element whose value is under a member. -/
def named (wanted : String) (read : Json → Except Mismatch α) (member : String) :
    Json → Except Mismatch (Named α) :=
  record wanted fun j => do
    let value ← optional read member j
    return ⟨← required text "name" j, value⟩

def cluster : Json → Except Mismatch ClusterEntry :=
  record "struct Cluster" fun j => do return ⟨← optional text "server" j⟩

def user : Json → Except Mismatch Unit :=
  record "struct AuthInfo" fun _ => return ()

def context : Json → Except Mismatch ContextEntry :=
  record "struct Context" fun j => do
    let owner ← required text "cluster" j
    let ns ← optional text "namespace" j
    return ⟨owner, ← optional text "user" j, ns⟩

def ofJson : Json → Except Mismatch Kubeconfig :=
  record "struct Kubeconfig" fun j => do
    let clusters ← list (named "struct NamedCluster" cluster "cluster") "clusters" j
    let contexts ← list (named "struct NamedContext" context "context") "contexts" j
    let current ← optional text "current-context" j
    let users ← list (named "struct NamedAuthInfo" user "user") "users" j
    return ⟨clusters, users, contexts, current⟩

/-- The namespace of a context that names none. -/
def defaultNamespace : String := "default"

/-- `connect`: where a context leads: the one that is asked for, or else the current one. -/
def target (k : Kubeconfig) (wanted : Option String) : Except KubeconfigFault Target :=
  match wanted.or k.current with
  | none => .error .noContext
  | some name =>
    if k.contexts.all fun e => e.name ≠ name then .error (.unknownContext name)
    else match Named.find? k.contexts name with
      | none => .error (.emptyContext name)
      | some c =>
        match Named.find? k.clusters c.cluster with
        | none => .error (.unknownCluster name c.cluster)
        | some entry =>
          match c.user.filter fun u => (Named.find? k.users u).isNone, entry.server with
          | some u, _ => .error (.unknownUser name u)
          | none, none => .error (.noServer name)
          | none, some server => .ok ⟨name, server, c.namespaceName.getD defaultNamespace⟩

/-- The kubeconfig in a file; `shown` is its name in messages. -/
def load (t : FileTree) (path : FilePath) (shown : String) :
    Except KubeconfigFault Kubeconfig :=
  match (t.contentAt path).bind FileTree.textOf with
  | .error cause => .error (.unreadable shown cause)
  | .ok text =>
    match Json.read text with
    | .error s => .error (.unparsable (s.message text))
    | .ok j => (ofJson j).mapError .malformed

end Kubeconfig

end ClusterScript
