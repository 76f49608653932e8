import ClusterScript.Proofs.Cluster.Pods
import ClusterScript.Proofs.Script.Courses

/-!
# Calls about objects in a store

An object with a name is created where it lies; the store keeps it and the
instance holds what the store keeps. Where there is such an object already,
nothing happens at all. A text that names a namespace and a name gets the
object that the store has there.

* `run_callAt_object`: a method of an object runs on its tree.
* `run_create_absent`, `create_declines`: creating an object.
* `run_find_named`: getting an object by its name.
-/
namespace ClusterScript.Script

open Run

section

variable {α : Type} {w : World} {session : Host} {s : Store} {r : Resource} {i : Instance}
variable {object : Json} {ns name : String} {depth k : Nat} {b : BoundMethod} {body : ObjectBody}

/-- A world whose session is on another cluster. -/
def World.onCluster (w : World) (session : Host) (c : Cluster) : World :=
  { w with host := some { session with cluster := c } }

/-- A world where the store keeps one more object, and an instance holds it. -/
def World.created (w : World) (session : Host) (s : Store) (i : Instance) (object : Json) :
    World :=
  { w with
    registry := w.registry.update i (.object object)
    host := some { session with cluster := .store { s with objects := s.objects ++ [object] } } }

theorem World.onCluster_self (hhost : w.host = some session) :
    w.onCluster session session.cluster = w := by
  rw [onCluster, ← hhost]

theorem run_askCluster {operation : Cluster → Except Fault α × Cluster} {v : α} {c : Cluster}
    (hhost : w.host = some session) (h : operation session.cluster = (.ok v, c)) :
    (askCluster operation).run w = .ok v (w.onCluster session c) := by
  refine (run_bind_of_ok (run_host hhost)).trans ?_
  rw [h]
  rfl

/-- A question that fails and leaves the cluster as it is changes nothing. -/
theorem askCluster_declines {operation : Cluster → Except Fault α × Cluster} {f : Fault}
    (hhost : w.host = some session) (h : operation session.cluster = (.error f, session.cluster)) :
    (askCluster operation).Declines w f := by
  refine (run_bind_of_ok (run_host hhost)).trans ?_
  rw [h]
  show (EStateM.Result.error _ (w.onCluster session session.cluster) : EStateM.Result _ _ α) = _
  rw [World.onCluster_self hhost]

/-- The object of a kind at a place, for scripts. -/
theorem run_newObject {cls : Nat} (hcls : w.registry.classId? r.kind = some cls) (object : Json) :
    ∃ i w', (newObject r object).run w = .ok (.instance i) w' ∧
      w'.registry.lookup i = .ok (.object object) :=
  ⟨_, _, run_bind_of_ok (run_newInstanceOf hcls (.object object)), Registry.lookup_allocated⟩

namespace Objects

/-! ## Methods of objects -/

/-- A method that is called on an object runs on its tree. -/
theorem run_callAt_object [Library] (depth : Nat) (hi : w.registry.lookup i = .ok (.object object))
    (hbound : w.registry.bound[k]? = some b) (hcls : b.cls = i.cls)
    (hmethod : b.method = ⟨name, .exact 0, .object r body⟩) :
    (callAt (depth + 1) (.host (.method k)) [.instance i]).run w = (perform r i body).run w ∧
      (objectOf i).run w = .ok object w := by
  have hkind : b.method.body.kind = .ofInstance := by
    rw [hmethod]
    rfl
  have harity : b.method.arity.Admits ([] : List Value).length := by
    rw [hmethod]
    rfl
  refine ⟨?_, run_bind_of_ok (run_lookup hi)⟩
  rw [run_callAt_method hbound hcls hkind harity, hmethod]
  rfl

/-- An object with a name is where it lies. -/
theorem run_addressOf (hname : Object.name object ≠ "") (hns : w.Locates object ns) :
    (addressOf r object).run w = .ok (ns, Object.name object) w := by
  rw [addressOf, if_neg hname]
  cases hns with
  | own hown =>
    rw [if_pos hown]
    rfl
  | @session h hhost hempty =>
    rw [if_neg (not_not.2 hempty), run_bind_of_ok (run_currentNamespace hhost)]
    simp only [address, if_neg hname, if_pos hempty]
    rfl

/-- An object that the store has not yet is added to it, and the instance holds it as the store
keeps it. -/
theorem run_create_absent [Library] (depth : Nat) {members : List (String × Json)}
    (hhost : w.host = some session) (hstore : session.cluster = .store s)
    (hi : w.registry.lookup i = .ok (.object (.obj members)))
    (hbound : w.registry.bound[k]? = some b) (hcls : b.cls = i.cls)
    (hmethod : b.method = ⟨name, .exact 0, .object r .create⟩)
    (hname : Object.name (.obj members) ≠ "") (hns : w.Locates (.obj members) ns)
    (habsent : s.objects.any (Store.isAt r ns (Object.name (.obj members))) = false) :
    (callAt (depth + 1) (.host (.method k)) [.instance i]).run w = .ok [.instance i]
      (w.created session s i (Store.adopted r ns (.obj members))) := by
  obtain ⟨hrun, hobject⟩ := run_callAt_object depth hi hbound hcls hmethod
  rw [hrun, perform, run_bind_of_ok hobject, run_bind_of_ok (run_addressOf hname hns)]
  refine (run_bind_of_ok (run_askCluster hhost ?_)).trans rfl
  rw [hstore, Cluster.create, (Store.create_absent members habsent).1]

/-- An object that the store has already is not created, and nothing changes. -/
theorem create_declines [Library] (hhost : w.host = some session)
    (hstore : session.cluster = .store s)
    (hi : w.registry.lookup i = .ok (.object object)) (hbound : w.registry.bound[k]? = some b)
    (hcls : b.cls = i.cls) (hmethod : b.method = ⟨name, .exact 0, .object r .create⟩)
    (hname : Object.name object ≠ "") (hns : w.Locates object ns)
    (hpresent : s.objects.any (Store.isAt r ns (Object.name object)) = true) :
    (callAt (depth + 1) (.host (.method k)) [.instance i]).Declines w
      (Store.alreadyExists r (Object.name object)) := by
  obtain ⟨hrun, hobject⟩ := run_callAt_object depth hi hbound hcls hmethod
  have hask : (askCluster (Cluster.create r ns object)).Declines w
      (Store.alreadyExists r (Object.name object)) := by
    refine askCluster_declines hhost ?_
    rw [hstore, Cluster.create, Store.create_present hpresent]
  have hperform : (perform r i .create).Declines w (Store.alreadyExists r (Object.name object)) :=
    .after hobject (.after (run_addressOf hname hns) hask.bind)
  exact hrun.trans hperform

/-! ## Getting objects -/

theorem target_named (hns : Name.valid ns.toList = true) (current : String) :
    target current (ns ++ "/" ++ name) = (ns, name) := by
  obtain ⟨hempty, hstar, hslash⟩ := Name.proper_of_valid hns
  have hsplit : Text.splitOnce "/" (ns ++ "/" ++ name) = some (ns, name) := by
    rw [Text.splitOnce_eq_map, String.toList_append, String.toList_append, List.append_assoc,
      show "/".toList = ['/'] from rfl, Text.splitOnceChars_append hslash]
    simp [String.ofList_toList]
  have hproper : ns ≠ allNamespaces ∧ ns ≠ "" :=
    ⟨fun h => hstar (by rw [h]; rfl), fun h => hempty (by rw [h]; rfl)⟩
  simp only [target, hsplit, if_pos hproper]

/-- A text with a namespace and a name gets the object that the store has there. -/
theorem run_find_named [Library] {cls : Nat} (hhost : w.host = some session)
    (hstore : session.cluster = .store s) (hcls : w.registry.classId? r.kind = some cls)
    (hns : Name.valid ns.toList = true) (hget : s.get r ns name = .ok object) :
    ∃ i w', (callAt (depth + 1) (.host (.object r)) [.text (ns ++ "/" ++ name)]).run w =
      .ok [.instance i] w' ∧ w'.registry.lookup i = .ok (.object object) := by
  have hask : (askCluster (Cluster.get r ns name)).run w = .ok object w := by
    have hsame : Cluster.get r ns name session.cluster = (.ok object, session.cluster) := by
      rw [hstore, Cluster.get, hget]
    rw [run_askCluster hhost hsame, World.onCluster_self hhost]
  obtain ⟨i, w', hnew, hi⟩ := run_newObject hcls object
  have hfind : (find r [.text (ns ++ "/" ++ name)]).run w = .ok (.instance i) w' := by
    refine (run_lift_bind _ _).trans ((run_bind_of_ok (run_currentNamespace hhost)).trans ?_)
    rw [target_named hns]
    exact (run_bind_of_ok hask).trans hnew
  exact ⟨i, w', run_bind_of_ok hfind, hi⟩

end Objects

end

end ClusterScript.Script
