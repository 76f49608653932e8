import ClusterScript.Proofs.Registry.Instances
import ClusterScript.Script.Scope

/-!
# Running actions

What the primitive actions do to a world, as equations. A world that only
grew has new tables after the ones it had; the tables it had are as they
were, up to one that may be named.

* `bind_ok`: an action that ends with a value runs through all its parts.
* `World.Grown`: only tables were added, and one may have changed.
-/
namespace ClusterScript.Script

namespace Run

section

variable {α β : Type} {w w' : World}

/-- A sequence that ends with a value has run through both parts. -/
theorem bind_ok {x : Run α} {f : α → Run β} {b : β}
    (h : (x >>= f).run w = .ok b w') : ∃ a w₁, x.run w = .ok a w₁ ∧ (f a).run w₁ = .ok b w' := by
  rw [EStateM.run_bind] at h
  cases hx : x.run w with
  | ok a w₁ =>
    rw [hx] at h
    exact ⟨a, w₁, rfl, h⟩
  | error e w₁ =>
    rw [hx] at h
    cases h

/-- The second part of a sequence starts where the first has ended. -/
theorem run_bind_of_ok {x : Run α} {f : α → Run β} {a : α} (h : x.run w = .ok a w') :
    (x >>= f).run w = (f a).run w' := by
  rw [EStateM.run_bind, h]

@[simp] theorem run_newTable (t : Table) :
    (newTable t).run w = .ok w.tables.size { w with tables := w.tables.push t } := rfl

@[simp] theorem run_setIn (id : Nat) (key value : Value) :
    (setIn id key value).run w =
      .ok () { w with tables := w.tables.modify id fun t => t.set key value } := rfl

@[simp] theorem run_get : (MonadState.get : Run World).run w = .ok w w := rfl

@[simp] theorem run_registry : registry.run w = .ok w.registry w := rfl

theorem run_lookup {i : Instance} {state : InstanceState}
    (h : w.registry.lookup i = .ok state) : (lookup i).run w = .ok state w := by
  have : (lookup i).run w = (lift (w.registry.lookup i)).run w := rfl
  rw [this, h]
  rfl

theorem run_host {session : Host} (h : w.host = some session) : host.run w = .ok session w := by
  rw [host, run_bind_of_ok run_get, h]
  rfl

theorem run_currentNamespace {session : Host} (h : w.host = some session) :
    currentNamespace.run w = .ok session.currentNamespace w := run_bind_of_ok (run_host h)

/-- A computation that succeeds is passed without a trace. -/
theorem run_lift_bind (v : α) (f : α → Run β) :
    ((lift (.ok v)) >>= f).run w = (f v).run w := run_bind_of_ok rfl

/-! ## New instances -/

theorem run_newInstanceOf {name : String} {id : Nat}
    (h : w.registry.classId? name = some id) (state : InstanceState) :
    (newInstanceOf name state).run w = .ok ⟨id, w.registry.slots.size⟩
      { w with registry := w.registry.allocated id state } := by
  obtain ⟨c, hc, -⟩ := Registry.classes_of_classId? h
  have hclass : (lift (w.registry.requireClass name)).run w = .ok id w := by
    simp only [Registry.requireClass, h]
    rfl
  have hallocate : (lift (w.registry.allocate id state)).run w =
      .ok (⟨id, w.registry.slots.size⟩, w.registry.allocated id state) w := by
    rw [Registry.allocate_eq hc]
    rfl
  rw [newInstanceOf, run_bind_of_ok run_registry, run_bind_of_ok hclass, newInstance,
    run_bind_of_ok run_registry, run_bind_of_ok hallocate]
  rfl

theorem run_newInstanceOf_undefined {name : String} (h : w.registry.classId? name = none)
    (state : InstanceState) : ∃ e, (newInstanceOf name state).run w = .error e w := by
  rw [newInstanceOf, run_bind_of_ok run_registry, EStateM.run_bind, Registry.requireClass, h]
  exact ⟨_, rfl⟩

end

end Run

/-- Only tables were added, and at most the excepted one has changed. -/
structure World.Grown (except : Option Nat) (w w' : World) : Prop where
  rest : w' = { w with tables := w'.tables }
  size : w.tables.size ≤ w'.tables.size
  old : ∀ i < w.tables.size, except ≠ some i → w'.tables[i]? = w.tables[i]?

namespace World.Grown

variable {except : Option Nat} {w w₁ w' : World}

theorem refl (w : World) : Grown except w w := ⟨rfl, Nat.le_refl _, fun _ _ _ => rfl⟩

theorem trans (h : Grown except w w₁) (h' : Grown except w₁ w') : Grown except w w' where
  rest := by rw [h'.rest, h.rest]
  size := Nat.le_trans h.size h'.size
  old i hi hne := (h'.old i (Nat.lt_of_lt_of_le hi h.size) hne).trans (h.old i hi hne)

theorem weaken (h : Grown none w w') : Grown except w w' :=
  ⟨h.rest, h.size, fun i hi _ => h.old i hi (by simp)⟩

theorem push (w : World) (t : Table) : Grown except w { w with tables := w.tables.push t } where
  rest := rfl
  size := by simp
  old i hi _ := by simp [Array.getElem?_push, Nat.ne_of_lt hi]

theorem modify (w : World) (id : Nat) (f : Table → Table) :
    Grown (some id) w { w with tables := w.tables.modify id f } where
  rest := rfl
  size := by simp
  old i _ hne := by
    have : id ≠ i := fun h => hne (by rw [h])
    simp [Array.getElem?_modify, this]

/-- A change to a table that was not there before is no change. -/
theorem ofNew (h : Grown none w w₁) (h' : Grown (some w.tables.size) w₁ w') :
    Grown none w w' where
  rest := by rw [h'.rest, h.rest]
  size := Nat.le_trans h.size h'.size
  old i hi hne := by
    have : some w.tables.size ≠ some i := by simp; omega
    exact (h'.old i (Nat.lt_of_lt_of_le hi h.size) this).trans (h.old i hi hne)

end World.Grown

end ClusterScript.Script
