import ClusterScript.Cluster.Client
import ClusterScript.Cluster.Store

/-!
# Clusters

A cluster is a store in memory or a client of a remote one. Both answer the
same five operations, and both may change by answering.
-/
namespace ClusterScript

/-- `Cluster`: what a session asks for objects. -/
inductive Cluster
  | store (s : Store)
  | client (c : Client)
deriving Inhabited

namespace Cluster

variable [Library]

/-- An operation of a client, its failures in the cluster's own words. -/
def remote (action : Client.Action α) (c : Client) : Except Fault α × Cluster :=
  let (result, c) := action c
  (result.mapError fun f => .cluster f.message, .client c)

def get (r : Resource) (ns name : String) : Cluster → Except Fault Json × Cluster
  | .store s => (s.get r ns name, .store s)
  | .client c => remote (Client.get r ns name) c

/-- The objects of a kind; without a namespace, of all namespaces. -/
def list (r : Resource) (ns : Option String) (o : ListOptions) :
    Cluster → Except Fault (List Json) × Cluster
  | .store s =>
    let (items, s) := s.list r ns o
    (.ok items, .store s)
  | .client c => remote (Client.list r ns o) c

def create (r : Resource) (ns : String) (object : Json) : Cluster → Except Fault Json × Cluster
  | .store s =>
    let (created, s) := s.create r ns object
    (created, .store s)
  | .client c =>
    match Library.adopt object with
    | .ok object => remote (Client.create r ns object) c
    | .error text => (.error (.conversion text), .client c)

def delete (r : Resource) (ns name : String) : Cluster → Except Fault Unit × Cluster
  | .store s =>
    let (result, s) := s.delete r ns name
    (result, .store s)
  | .client c => remote (Client.delete r ns name) c

/-- The whole log of a pod. -/
def logs (ns pod : String) : Cluster → Except Fault String × Cluster
  | .store s => (s.logs ns pod, .store s)
  | .client c => remote (Client.logs ns pod) c

end Cluster

end ClusterScript
