import ClusterScript.Proofs.Registry.Instances

/-!
# Registries that only grow

A registry extends another if all it has found before is found again: classes
by name and number, with their tables and traps, methods by number and
instances by reference. Counts and lists of methods may have changed, and so
may the lists of expressions.

* `Extends.lookup`: an instance is found again.
* `allocated_extends`, `addClass_extends`, ...: what extends a registry.
-/
namespace ClusterScript.Registry

open Script (Instance)

/-- The names of the classes, in the order of their numbers. -/
def classNames (r : Registry) : List String := r.classes.map (·.name)

/-- All that is found in the first registry is found in the second. -/
structure Extends (r r' : Registry) : Prop where
  names : r.classNames <+: r'.classNames
  classes : ∀ (id : Nat) (c : Class), r.classes[id]? = some c →
    ∃ c' : Class, r'.classes[id]? = some c' ∧ c'.table = c.table ∧
      ∀ t, c.trap = some t → c'.trap = some t
  bound : ∀ (k : Nat) (m : BoundMethod), r.bound[k]? = some m → r'.bound[k]? = some m
  slots : ∀ (k : Nat) (s : Slot), r.slots[k]? = some s → r'.slots[k]? = some s

theorem getElem?_push_old {α : Type} {xs : Array α} {k : Nat} {x : α} (h : xs[k]? = some x)
    (y : α) : (xs.push y)[k]? = some x := by
  have hlt : k < xs.size := (Array.getElem?_eq_some_iff.1 h).1
  rw [Array.getElem?_push, if_neg (Nat.ne_of_lt hlt), h]

section

variable {r r₁ r' : Registry} {id : Nat} {i : Instance} {state : InstanceState} {name : String}

namespace Extends

theorem refl (r : Registry) : r.Extends r :=
  ⟨List.prefix_refl _, fun _ c h => ⟨c, h, rfl, fun _ h => h⟩, fun _ _ h => h, fun _ _ h => h⟩

theorem trans (h : r.Extends r₁) (h' : r₁.Extends r') : r.Extends r' where
  names := h.names.trans h'.names
  classes id c hc := by
    obtain ⟨c₁, hc₁, htable, htrap⟩ := h.classes id c hc
    obtain ⟨c', hc', htable', htrap'⟩ := h'.classes id c₁ hc₁
    exact ⟨c', hc', htable'.trans htable, fun t ht => htrap' t (htrap t ht)⟩
  bound k m hm := h'.bound k m (h.bound k m hm)
  slots k s hs := h'.slots k s (h.slots k s hs)

theorem lookup (h : r.Extends r') (hi : r.lookup i = .ok state) : r'.lookup i = .ok state := by
  rw [lookup_eq_ok] at hi ⊢
  exact h.slots _ _ hi

end Extends

theorem classId?_eq (r : Registry) (name : String) :
    r.classId? name = r.classNames.findIdx? fun n => n = name := by
  rw [classNames, List.findIdx?_map]
  rfl

theorem Extends.classId? (h : r.Extends r') (hname : r.classId? name = some id) :
    r'.classId? name = some id := by
  rw [classId?_eq] at hname ⊢
  exact h.names.findIdx?_eq_some hname

theorem classId?_eq_none (h : name ∉ r.classNames) : r.classId? name = none := by
  rw [classId?_eq, List.findIdx?_eq_none_iff]
  intro n hn
  rw [decide_eq_false_iff_not]
  rintro rfl
  exact h hn

/-! ## What extends a registry -/

theorem map_modifyClass {α : Type} {g : Class → α} {f : Class → Class} (r : Registry) (id : Nat)
    (h : ∀ c, g (f c) = g c) : (r.modifyClass id f).classes.map g = r.classes.map g := by
  refine List.ext_getElem? fun k => ?_
  simp only [modifyClass, List.getElem?_map, List.getElem?_modify]
  cases r.classes[k]? with
  | none => rfl
  | some c => split <;> simp [h]

theorem classNames_modifyClass (r : Registry) (id : Nat) {f : Class → Class}
    (hname : ∀ c, (f c).name = c.name) : (r.modifyClass id f).classNames = r.classNames :=
  map_modifyClass r id hname

/-- A change of a class that keeps what it is found by. -/
theorem modifyClass_extends (r : Registry) (id : Nat) {f : Class → Class}
    (hname : ∀ c, (f c).name = c.name) (htable : ∀ c, (f c).table = c.table)
    (htrap : ∀ c, r.classes[id]? = some c → ∀ t, c.trap = some t → (f c).trap = some t) :
    r.Extends (r.modifyClass id f) where
  names := ⟨[], by rw [List.append_nil, classNames_modifyClass r id hname]⟩
  classes k c hc := by
    by_cases hk : id = k
    · subst hk
      exact ⟨f c, by simp [modifyClass, hc], htable c, htrap c hc⟩
    · exact ⟨c, by simp [modifyClass, hk, hc], rfl, fun _ h => h⟩
  bound _ _ h := h
  slots _ _ h := h

theorem allocated_extends (r : Registry) (id : Nat) (state : InstanceState) :
    r.Extends (r.allocated id state) := by
  refine (modifyClass_extends r id (f := fun c => { c with objectCount := c.objectCount + 1 })
    (fun _ => rfl) (fun _ => rfl) fun _ _ _ h => h).trans ?_
  exact ⟨List.prefix_refl _, fun _ c h => ⟨c, h, rfl, fun _ h => h⟩, fun _ _ h => h,
    fun _ _ h => getElem?_push_old h _⟩

/-- A registry with one more class. -/
def withClass (r : Registry) (name : String) (table : Nat) : Registry :=
  { r with classes := r.classes ++ [⟨name, table, [], none, 0⟩] }

theorem addClass_eq (hvalid : validName name = true) (h : name ∉ r.classNames) (table : Nat) :
    r.addClass name table = .ok (r.classes.length, r.withClass name table) := by
  simp [addClass, hvalid, classId?_eq_none h, withClass]

theorem withClass_extends (r : Registry) (name : String) (table : Nat) :
    r.Extends (r.withClass name table) where
  names := by simp [classNames, withClass]
  classes id c hc := by
    have hlt : id < r.classes.length := (List.getElem?_eq_some_iff.1 hc).1
    exact ⟨c, by simp [withClass, List.getElem?_append_left hlt, hc], rfl, fun _ h => h⟩
  bound _ _ h := h
  slots _ _ h := h

theorem addMethod_extends (r : Registry) (id : Nat) (c : Class) (m : Method) :
    r.Extends (r.addMethod id c m).2 := by
  refine (modifyClass_extends r id (f := fun c =>
    { c with methods := (c.methods.filter fun x => x.name ≠ m.name) ++ [m] })
    (fun _ => rfl) (fun _ => rfl) fun _ _ _ h => h).trans ?_
  exact ⟨List.prefix_refl _, fun _ c h => ⟨c, h, rfl, fun _ h => h⟩,
    fun _ _ h => getElem?_push_old h _, fun _ _ h => h⟩

/-- A registry with other lists of expressions. -/
theorem recordings_extends (r : Registry) (recordings : Array (List Selector.Expression)) :
    r.Extends { r with recordings := recordings } :=
  ⟨List.prefix_refl _, fun _ c h => ⟨c, h, rfl, fun _ h => h⟩, fun _ _ h => h, fun _ _ h => h⟩

end

end ClusterScript.Registry
