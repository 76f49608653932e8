import ClusterScript.Registry.Basic

/-!
# Instances of a registry

Allocating an instance appends a slot and counts it for its class; it finds
the class it was asked for exactly when that class is defined. Names of
classes stay as they are.

* `allocate_eq`: allocation in a class that is there.
* `lookup_allocated`: an instance is found by what it was made of.
-/
namespace ClusterScript.Registry

open Script (Instance)

/-- A registry with one more instance. -/
def allocated (r : Registry) (id : Nat) (state : InstanceState) : Registry :=
  { r.modifyClass id fun c => { c with objectCount := c.objectCount + 1 } with
    slots := r.slots.push ⟨id, state⟩ }

section

variable {r : Registry} {id cls : Nat} {c : Class} {i : Instance} {name : String}
variable {state old : InstanceState}

theorem allocate_eq (h : r.classes[id]? = some c) (state : InstanceState) :
    r.allocate id state = .ok (⟨id, r.slots.size⟩, r.allocated id state) := by
  simp only [allocate, Registry.cls, h]
  rfl

theorem classes_of_classId? (h : r.classId? name = some id) :
    ∃ c, r.classes[id]? = some c ∧ c.name = name := by
  obtain ⟨hlt, hname, -⟩ := List.findIdx?_eq_some_iff_getElem.1 h
  exact ⟨r.classes[id], List.getElem?_eq_getElem hlt, by simpa using hname⟩

theorem findIdx?_modify {f : Class → Class} (hf : ∀ c, (f c).name = c.name) :
    ∀ (classes : List Class) (id : Nat),
      (classes.modify id f).findIdx? (fun c => c.name = name) =
        classes.findIdx? fun c => c.name = name
  | [], _ => by simp
  | c :: rest, 0 => by simp [List.findIdx?_cons, hf]
  | c :: rest, id + 1 => by
    simp [List.modify_succ_cons, List.findIdx?_cons, findIdx?_modify hf rest id]

@[simp] theorem classId?_allocated (name : String) :
    (r.allocated id state).classId? name = r.classId? name :=
  findIdx?_modify (f := fun c => { c with objectCount := c.objectCount + 1 }) (fun _ => rfl)
    r.classes id

@[simp] theorem slots_allocated : (r.allocated id state).slots = r.slots.push ⟨id, state⟩ := rfl

@[simp] theorem recordings_allocated : (r.allocated id state).recordings = r.recordings := rfl

theorem lookup_eq_ok :
    r.lookup i = .ok state ↔ r.slots[i.handle]? = some ⟨i.cls, state⟩ := by
  unfold lookup
  cases h : r.slots[i.handle]? with
  | none => simp
  | some slot =>
    obtain ⟨cls, held⟩ := slot
    by_cases hcls : cls = i.cls
    · simp [hcls]
    · simp [hcls]

theorem lookup_allocated : (r.allocated id state).lookup ⟨id, r.slots.size⟩ = .ok state := by
  rw [lookup_eq_ok]
  simp

end

end ClusterScript.Registry
