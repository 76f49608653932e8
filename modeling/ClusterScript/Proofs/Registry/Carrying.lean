import ClusterScript.Proofs.Registry.Extension

/-!
# Registries that are carried on

While scripts run, classes and methods stay as they are. Instances stay too;
those of lists, objects, logs and tallies may change their state, the others
keep it.

* `Registry.Defines`: a class has a method.
* `Registry.Carries`: one registry is carried on to another.
* `Carries.lookup_fixed`: keys, collectors and selectors keep their states.
* `carries_allocated`, `carries_update`, ...: what carries a registry on.
-/
namespace ClusterScript

/-- How the state of an instance may change: a log stays that of its pod. -/
inductive InstanceState.Becomes : InstanceState → InstanceState → Prop
  | list {q q' : Query} {items items' : List Json} : Becomes (.list q items) (.list q' items')
  | object {j j' : Json} : Becomes (.object j) (.object j')
  | logs {ns pod text : String} {old : Option String} :
      Becomes (.logs ns pod old) (.logs ns pod (some text))
  | tally {n n' : Int64} : Becomes (.tally n) (.tally n')

/-- States of keys, collectors and selectors, which never change. -/
def InstanceState.isFixed : InstanceState → Bool
  | .key _ _ | .collector _ _ _ | .selector _ _ => true
  | _ => false

def InstanceState.isList : InstanceState → Bool
  | .list _ _ => true
  | _ => false

theorem InstanceState.Becomes.trans {s s₁ s' : InstanceState} (h : s.Becomes s₁)
    (h' : s₁.Becomes s') : s.Becomes s' := by
  cases h <;> cases h' <;> constructor

/-- What two states have become of one, one may become of the other. -/
theorem InstanceState.Becomes.branch {s s₁ s₂ : InstanceState} (h₁ : s.Becomes s₁)
    (h₂ : s.Becomes s₂) : s₁.Becomes s₂ := by
  cases h₁ <;> cases h₂ <;> constructor

namespace Registry

open Script (Instance)

/-- The class of a name has a method. -/
def Defines (r : Registry) (name : String) (m : Method) : Prop :=
  ∃ b ∈ r.bound.toList, b.method = m ∧ r.classId? name = some b.cls

instance (r : Registry) (name : String) (m : Method) : Decidable (r.Defines name m) :=
  inferInstanceAs (Decidable (∃ b ∈ r.bound.toList, _))

theorem Defines.bound {r : Registry} {name : String} {m : Method} {cls : Nat}
    (h : r.Defines name m) (hcls : r.classId? name = some cls) :
    ∃ (k : Nat) (b : BoundMethod), r.bound[k]? = some b ∧ b.cls = cls ∧ b.method = m := by
  obtain ⟨b, hb, hmethod, hname⟩ := h
  obtain ⟨k, hk⟩ := List.mem_iff_getElem?.1 hb
  rw [Array.getElem?_toList] at hk
  exact ⟨k, b, hk, Option.some.inj (hname.symm.trans hcls), hmethod⟩

/-- Name, table and trap of each class. -/
def profile (r : Registry) : List (String × Nat × Option Trap) :=
  r.classes.map fun c => (c.name, c.table, c.trap)

/-- Classes and methods stay as they are, and instances too, up to those whose state may change. -/
structure Carries (r r' : Registry) : Prop where
  profile : r'.profile = r.profile
  bound : r'.bound = r.bound
  size : r.slots.size ≤ r'.slots.size
  kept : ∀ i state, r.lookup i = .ok state →
    ∃ state', r'.lookup i = .ok state' ∧ (state' = state ∨ state.Becomes state')

section

variable {r r₁ r' : Registry} {id : Nat} {i : Instance} {state state' : InstanceState}

namespace Carries

theorem refl (r : Registry) : r.Carries r :=
  ⟨rfl, rfl, Nat.le_refl _, fun _ state h => ⟨state, h, .inl rfl⟩⟩

theorem trans (h : r.Carries r₁) (h' : r₁.Carries r') : r.Carries r' where
  profile := h'.profile.trans h.profile
  bound := h'.bound.trans h.bound
  size := Nat.le_trans h.size h'.size
  kept i state hi := by
    obtain ⟨state₁, hi₁, hstate₁⟩ := h.kept i state hi
    obtain ⟨state', hi', hstate'⟩ := h'.kept i state₁ hi₁
    refine ⟨state', hi', ?_⟩
    rcases hstate₁ with rfl | hbecomes
    · exact hstate'
    · rcases hstate' with rfl | hbecomes'
      · exact .inr hbecomes
      · exact .inr (hbecomes.trans hbecomes')

theorem classNames (h : r.Carries r') : r'.classNames = r.classNames := by
  have hnames : ∀ r : Registry, r.classNames = r.profile.map Prod.fst := by
    intro r
    simp [Registry.classNames, Registry.profile]
  rw [hnames, hnames, h.profile]

theorem classId? (h : r.Carries r') (name : String) : r'.classId? name = r.classId? name := by
  rw [Registry.classId?_eq, Registry.classId?_eq, h.classNames]

theorem defines {name : String} {m : Method} (h : r.Carries r') (hm : r.Defines name m) :
    r'.Defines name m := by
  obtain ⟨b, hb, hmethod, hcls⟩ := hm
  exact ⟨b, by rwa [h.bound], hmethod, (h.classId? name).trans hcls⟩

/-- A class keeps its name, its table and its trap. -/
theorem classes {c : Class} (h : r.Carries r') (hc : r.classes[id]? = some c) :
    ∃ c', r'.classes[id]? = some c' ∧ c'.name = c.name ∧ c'.table = c.table ∧ c'.trap = c.trap := by
  have hprofile := congrArg (fun l => l[id]?) h.profile
  simp only [Registry.profile, List.getElem?_map, hc, Option.map_some] at hprofile
  obtain ⟨c', hc', heq⟩ := Option.map_eq_some_iff.1 hprofile
  simp only [Prod.mk.injEq] at heq
  exact ⟨c', hc', heq.1, heq.2.1, heq.2.2⟩

/-- The states of keys, collectors and selectors stay. -/
theorem lookup_fixed (h : r.Carries r') (hfixed : state.isFixed = true)
    (hi : r.lookup i = .ok state) : r'.lookup i = .ok state := by
  obtain ⟨state', hi', rfl | hbecomes⟩ := h.kept i state hi
  · exact hi'
  · cases hbecomes <;> cases hfixed

end Carries

theorem lookup_allocated_iff : (r.allocated id state).lookup i = .ok state' ↔
    r.lookup i = .ok state' ∨ i = ⟨id, r.slots.size⟩ ∧ state' = state := by
  rw [lookup_eq_ok, lookup_eq_ok, slots_allocated, Array.getElem?_push]
  split
  · next hhandle =>
    have hnone : r.slots[i.handle]? = none := by simp [hhandle]
    rw [hnone]
    constructor
    · intro h
      cases h
      exact .inr ⟨by cases i; simp_all, rfl⟩
    · rintro (h | ⟨rfl, rfl⟩)
      · cases h
      · rfl
  · next hhandle =>
    constructor
    · exact .inl
    · rintro (h | ⟨rfl, rfl⟩)
      · exact h
      · exact absurd rfl hhandle

theorem carries_allocated (r : Registry) (id : Nat) (state : InstanceState) :
    r.Carries (r.allocated id state) where
  profile := map_modifyClass r id fun _ => rfl
  bound := rfl
  size := by simp
  kept _ old h := ⟨old, lookup_allocated_iff.2 (.inl h), .inl rfl⟩

/-- Lists of expressions are no instances. -/
theorem carries_recordings (r : Registry) (recordings : Array (List Selector.Expression)) :
    r.Carries { r with recordings := recordings } :=
  ⟨rfl, rfl, Nat.le_refl _, fun _ state h => ⟨state, h, .inl rfl⟩⟩

/-- An instance whose state was replaced has the new one, and the others have theirs. -/
theorem lookup_update {j : Instance} {old : InstanceState} (hi : r.lookup i = .ok old) :
    (r.update i state).lookup j = .ok state' ↔
      if j = i then state' = state else r.lookup j = .ok state' := by
  rw [lookup_eq_ok] at hi
  have hlt := (Array.getElem?_eq_some_iff.1 hi).1
  rw [lookup_eq_ok, lookup_eq_ok, update, Array.getElem?_setIfInBounds]
  by_cases hhandle : i.handle = j.handle
  · rw [if_pos hhandle, if_pos hlt]
    by_cases hcls : j.cls = i.cls
    · have hj : j = i := by
        cases i
        cases j
        simp_all
      simp [hj, eq_comm]
    · have hj : j ≠ i := by
        rintro rfl
        exact hcls rfl
      rw [if_neg hj, ← hhandle, hi]
      simp [Ne.symm hcls]
  · have hj : j ≠ i := by
      rintro rfl
      exact hhandle rfl
    rw [if_neg hhandle, if_neg hj]

theorem carries_update {old : InstanceState} (hi : r.lookup i = .ok old)
    (hbecomes : old.Becomes state) : r.Carries (r.update i state) where
  profile := rfl
  bound := rfl
  size := by simp [update]
  kept j found hj := by
    by_cases h : j = i
    · subst h
      cases hi.symm.trans hj
      exact ⟨state, by rw [lookup_update hi, if_pos rfl], .inr hbecomes⟩
    · exact ⟨found, by rw [lookup_update hi, if_neg h, hj], .inl rfl⟩

end

end Registry

end ClusterScript
