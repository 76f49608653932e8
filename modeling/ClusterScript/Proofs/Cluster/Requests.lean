import ClusterScript.Cluster.Basic

/-!
# Questions to clusters

The five operations of a cluster as data, with their arguments and answers. A
row of questions is put to a cluster one after the other, each to what the one
before has left.
-/
namespace ClusterScript

/-- A question to the cluster. -/
inductive ClusterRequest
  | get (r : Resource) (ns name : String)
  | list (r : Resource) (ns : Option String) (o : ListOptions)
  | create (r : Resource) (ns : String) (object : Json)
  | delete (r : Resource) (ns name : String)
  | logs (ns pod : String)

inductive ClusterAnswer
  | object (j : Json)
  | objects (items : List Json)
  | log (text : String)
  | done

namespace ClusterRequest

variable [Library]

/-- The cluster once it has answered. -/
def answered (c : Cluster) : ClusterRequest → Cluster
  | .get r ns name => (c.get r ns name).2
  | .list r ns o => (c.list r ns o).2
  | .create r ns object => (c.create r ns object).2
  | .delete r ns name => (c.delete r ns name).2
  | .logs ns pod => (c.logs ns pod).2

/-- A store stays one by answering. -/
theorem answered_store (request : ClusterRequest) (s : Store) :
    ∃ s', request.answered (.store s) = .store s' := by
  cases request with
  | get r ns name => exact ⟨s, rfl⟩
  | logs ns pod => exact ⟨s, rfl⟩
  | list r ns o => exact ⟨(s.list r ns o).2, rfl⟩
  | create r ns object => exact ⟨(s.create r ns object).2, rfl⟩
  | delete r ns name => exact ⟨(s.delete r ns name).2, rfl⟩

/-- What the cluster answers. -/
def answer (c : Cluster) : ClusterRequest → Except Fault ClusterAnswer
  | .get r ns name => (c.get r ns name).1.map .object
  | .list r ns o => (c.list r ns o).1.map .objects
  | .create r ns object => (c.create r ns object).1.map .object
  | .delete r ns name => (c.delete r ns name).1.map fun _ => .done
  | .logs ns pod => (c.logs ns pod).1.map .log

/-- Puts questions one after the other. -/
def putAll : List ClusterRequest → Cluster → List (Except Fault ClusterAnswer) × Cluster
  | [], c => ([], c)
  | q :: rest, c => (q.answer c :: (putAll rest (q.answered c)).1, (putAll rest (q.answered c)).2)

/-- What the last question leaves. -/
theorem putAll_concat (qs : List ClusterRequest) (q : ClusterRequest) (c : Cluster) :
    (putAll (qs ++ [q]) c).2 = q.answered (putAll qs c).2 := by
  induction qs generalizing c with
  | nil => rfl
  | cons _ _ ih => exact ih _

end ClusterRequest

end ClusterScript
