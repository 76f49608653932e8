import ClusterScript.Proofs.Registry.Extension
import ClusterScript.Proofs.Script.Running
import ClusterScript.Proofs.Script.Tables
import ClusterScript.Script.Classes

/-!
# What scripts find in the tables of classes

Defining a class makes a table in which every method stands under its name,
as a function that the registry knows as that method of that class. Other
tables, classes and methods stay as they are, and so what was found before is
found again.

* `World.Extends`: worlds in which what was there is still there.
* `World.Holds`: a table with exactly the methods of a list.
* `run_define`: what defining a class gives.
-/
namespace ClusterScript.Script

/-- What was there is still there: all of the registry, the locals, the closures, the session,
and the tables whose numbers are `fixed`. -/
structure World.Extends (fixed : Nat → Prop) (w w' : World) : Prop where
  size : w.tables.size ≤ w'.tables.size
  tables : ∀ (i : Nat) (t : Table), fixed i → w.tables[i]? = some t → w'.tables[i]? = some t
  cells : ∀ (i : Nat) (v : Value), w.cells[i]? = some v → w'.cells[i]? = some v
  closures : ∀ (i : Nat) (c : Closure), w.closures[i]? = some c → w'.closures[i]? = some c
  registry : w.registry.Extends w'.registry
  host : w'.host = w.host

namespace World.Extends

variable {fixed fixed' : Nat → Prop} {w w₁ w' : World}

theorem refl (w : World) : w.Extends fixed w :=
  ⟨Nat.le_refl _, fun _ _ _ h => h, fun _ _ h => h, fun _ _ h => h, .refl _, rfl⟩

theorem trans (h : w.Extends fixed w₁) (h' : w₁.Extends fixed w') : w.Extends fixed w' where
  size := Nat.le_trans h.size h'.size
  tables i t hi ht := h'.tables i t hi (h.tables i t hi ht)
  cells i v hv := h'.cells i v (h.cells i v hv)
  closures i c hc := h'.closures i c (h.closures i c hc)
  registry := h.registry.trans h'.registry
  host := h'.host.trans h.host

theorem mono (h : w.Extends fixed w') (hfixed : ∀ i, fixed' i → fixed i) : w.Extends fixed' w' :=
  { h with tables := fun i t hi ht => h.tables i t (hfixed i hi) ht }

theorem restrict (h : w.Extends (fun _ => True) w') : w.Extends fixed w' :=
  h.mono fun _ _ => trivial

/-- A table that was not there may become anything. -/
theorem ofNew {id : Nat} (h : w.Extends fixed w₁) (hid : w.tables.size ≤ id)
    (h' : w₁.Extends (fun i => fixed i ∧ i ≠ id) w') : w.Extends fixed w' where
  size := Nat.le_trans h.size h'.size
  tables i t hi ht := by
    have hlt : i < w.tables.size := (Array.getElem?_eq_some_iff.1 ht).1
    exact h'.tables i t ⟨hi, by omega⟩ (h.tables i t hi ht)
  cells i v hv := h'.cells i v (h.cells i v hv)
  closures i c hc := h'.closures i c (h.closures i c hc)
  registry := h.registry.trans h'.registry
  host := h'.host.trans h.host

theorem ofRegistry (w : World) {r : Registry} (h : w.registry.Extends r) :
    w.Extends fixed { w with registry := r } :=
  ⟨Nat.le_refl _, fun _ _ _ h => h, fun _ _ h => h, fun _ _ h => h, h, rfl⟩

theorem pushTable (w : World) (t : Table) :
    w.Extends fixed { w with tables := w.tables.push t } :=
  ⟨by simp, fun _ _ _ h => Registry.getElem?_push_old h t, fun _ _ h => h, fun _ _ h => h,
    .refl _, rfl⟩

theorem modifyTable (w : World) (id : Nat) (hid : ¬ fixed id) (f : Table → Table) :
    w.Extends fixed { w with tables := w.tables.modify id f } where
  size := by simp
  tables i t hi ht := by
    have hne : id ≠ i := fun h => hid (h ▸ hi)
    simp [Array.getElem?_modify, hne, ht]
  cells _ _ h := h
  closures _ _ h := h
  registry := .refl _
  host := rfl

theorem pushCell (w : World) (v : Value) :
    w.Extends fixed { w with cells := w.cells.push v } :=
  ⟨Nat.le_refl _, fun _ _ _ h => h, fun _ _ h => Registry.getElem?_push_old h v, fun _ _ h => h,
    .refl _, rfl⟩

theorem pushClosure (w : World) (c : Closure) :
    w.Extends fixed { w with closures := w.closures.push c } :=
  ⟨Nat.le_refl _, fun _ _ _ h => h, fun _ _ h => h, fun _ _ h => Registry.getElem?_push_old h c,
    .refl _, rfl⟩

end World.Extends

/-- A table that has exactly the methods of a list, as methods of a class. -/
def World.Holds (w : World) (table cls : Nat) (methods : List Method) : Prop :=
  ∃ t, w.tables[table]? = some t ∧
    (∀ m ∈ methods, ∃ k b, t.get (.text m.name) = .host (.method k) ∧
      w.registry.bound[k]? = some b ∧ b.cls = cls ∧ b.method = m) ∧
    ∀ name, name ∉ methods.map (·.name) → t.get (.text name) = .nil

theorem World.Holds.extends {fixed : Nat → Prop} {w w' : World} {table cls : Nat}
    {methods : List Method} (h : w.Holds table cls methods) (hw : w.Extends fixed w')
    (hfixed : fixed table) : w'.Holds table cls methods := by
  obtain ⟨t, ht, hmember, habsent⟩ := h
  refine ⟨t, hw.tables _ t hfixed ht, fun m hm => ?_, habsent⟩
  obtain ⟨k, b, hget, hbound, hb⟩ := hmember m hm
  exact ⟨k, b, hget, hw.registry.bound k b hbound, hb⟩

/-! ## Defining classes -/

namespace Classes

section

variable {w : World} {id : Nat} {c : Class} {t : Table} {name : String}

/-- A world with one more method of a class, in the registry and in the table. -/
def withMethod (w : World) (id : Nat) (c : Class) (m : Method) : World :=
  { w with
    registry := (w.registry.addMethod id c m).2
    tables := w.tables.modify c.table fun t =>
      t.set (.text m.name) (.host (.method w.registry.bound.size)) }

theorem run_bindAll_cons (id : Nat) (c : Class) (m : Method) (rest : List Method) (w : World) :
    (bindAll id c (m :: rest)).run w = (bindAll id c rest).run (withMethod w id c m) := rfl

theorem withMethod_extends (w : World) (id : Nat) (c : Class) (m : Method) :
    w.Extends (fun i => i ≠ c.table) (withMethod w id c m) :=
  .trans (.ofRegistry w (w.registry.addMethod_extends id c m))
    (.modifyTable _ c.table (by simp) _)

/-- Methods have been bound to a class with the table `t`, which has become `t'`. -/
structure BoundAll (id : Nat) (c : Class) (methods : List Method) (w : World) (t : Table)
    (w' : World) (t' : Table) : Prop where
  ext : w.Extends (fun i => i ≠ c.table) w'
  names : w'.registry.classNames = w.registry.classNames
  traps : w'.registry.classes.map (·.trap) = w.registry.classes.map (·.trap)
  root : w'.registry.root = w.registry.root
  table : w'.tables[c.table]? = some t'
  member : ∀ m ∈ methods, ∃ k, t'.get (.text m.name) = .host (.method k) ∧
    w'.registry.bound[k]? = some ⟨id, c.name, c.table, m⟩
  absent : ∀ name, name ∉ methods.map (·.name) → t'.get (.text name) = t.get (.text name)

theorem BoundAll.cons {m : Method} {rest : List Method} {w' : World} {t' : Table}
    (hm : m.name ∉ rest.map (·.name))
    (h : BoundAll id c rest (withMethod w id c m)
      (t.set (.text m.name) (.host (.method w.registry.bound.size))) w' t') :
    BoundAll id c (m :: rest) w t w' t' where
  ext := (withMethod_extends w id c m).trans h.ext
  names := h.names.trans (Registry.classNames_modifyClass _ _ fun _ => rfl)
  traps := h.traps.trans (Registry.map_modifyClass _ _ fun _ => rfl)
  root := h.root
  table := h.table
  member m' hm' := by
    rcases List.mem_cons.1 hm' with rfl | hm'
    · refine ⟨w.registry.bound.size, ?_, h.ext.registry.bound _ _ ?_⟩
      · rw [h.absent _ hm, Table.get_set_self (by simp)]
      · simp [withMethod, Registry.addMethod]
    · exact h.member m' hm'
  absent name hname := by
    rw [List.map_cons, List.mem_cons, not_or] at hname
    rw [h.absent name hname.2, Table.get_set_ne (by simp) (by simpa using hname.1)]

/-- Methods of different names are all bound. -/
theorem run_bindAll (id : Nat) (c : Class) :
    ∀ (methods : List Method) (w : World) (t : Table), w.tables[c.table]? = some t →
      (methods.map (·.name)).Nodup →
        ∃ w' t', (bindAll id c methods).run w = .ok () w' ∧ BoundAll id c methods w t w' t'
  | [], w, t, ht, _ =>
    ⟨w, t, rfl, .refl w, rfl, rfl, rfl, ht, by simp, fun _ _ => rfl⟩
  | m :: rest, w, t, ht, hnodup => by
    rw [List.map_cons, List.nodup_cons] at hnodup
    have ht₁ : (withMethod w id c m).tables[c.table]? =
        some (t.set (.text m.name) (.host (.method w.registry.bound.size))) := by
      simp [withMethod, Array.getElem?_modify, ht]
    obtain ⟨w', t', hrun, h⟩ := run_bindAll id c rest _ _ ht₁ hnodup.2
    exact ⟨w', t', by rw [run_bindAll_cons, hrun], h.cons hnodup.1⟩

theorem run_append {c : Class} (id : Nat) (methods : List Method)
    (h : w.registry.classes[id]? = some c) :
    (append id methods).run w = (bindAll id c methods).run w := by
  have hcls : (Run.lift (w.registry.cls id)).run w = .ok c w := by
    simp only [Registry.cls, h]
    rfl
  rw [append, Run.run_bind_of_ok Run.run_registry, Run.run_bind_of_ok hcls]

/-- A world with one more class, which has an empty table. -/
def withClass (w : World) (name : String) : World :=
  { w with
    tables := w.tables.push .empty
    registry := w.registry.withClass name w.tables.size }

theorem withClass_extends (fixed : Nat → Prop) (w : World) (name : String) :
    w.Extends fixed (withClass w name) :=
  .trans (.pushTable w .empty) (.ofRegistry _ (w.registry.withClass_extends name w.tables.size))

theorem run_define_open (methods : List Method) (w : World)
    (hvalid : Registry.validName name = true) (hfree : name ∉ w.registry.classNames) :
    (define name methods).run w = (do
      let id := w.registry.classes.length
      append id (methods ++ [objectCount id])
      Run.setIn w.registry.root (.text name) (.table w.tables.size)
      return id : Run Nat).run (withClass w name) := by
  let w₁ : World := { w with tables := w.tables.push .empty }
  have hadd : (Run.lift (w₁.registry.addClass name w.tables.size)).run w₁ =
      .ok (w.registry.classes.length, w.registry.withClass name w.tables.size) w₁ := by
    rw [Registry.addClass_eq hvalid hfree]
    rfl
  have hset : (Run.setRegistry (w.registry.withClass name w.tables.size)).run w₁ =
      .ok () (withClass w name) := rfl
  rw [define, Run.run_bind_of_ok (Run.run_newTable _), Run.run_bind_of_ok Run.run_registry,
    Run.run_bind_of_ok hadd, Run.run_bind_of_ok hset]
  rfl

/-- A class is defined that has a table of its own with its methods, and no trap. -/
structure Made (fixed : Nat → Prop) (w : World) (name : String) (methods : List Method)
    (w' : World) : Prop where
  ext : w.Extends fixed w'
  size : w.tables.size < w'.tables.size
  names : w'.registry.classNames = w.registry.classNames ++ [name]
  root : w'.registry.root = w.registry.root
  found : ∃ c, w'.registry.classes[w.registry.classes.length]? = some c ∧
    c.table = w.tables.size ∧ c.trap = none
  holds : w'.Holds w.tables.size w.registry.classes.length
    (methods ++ [objectCount w.registry.classes.length])

theorem run_define (fixed : Nat → Prop) (methods : List Method) (w : World)
    (hvalid : Registry.validName name = true) (hfree : name ∉ w.registry.classNames)
    (hroot : ¬ fixed w.registry.root) (hne : w.tables.size ≠ w.registry.root)
    (hnodup : ((methods ++ [objectCount w.registry.classes.length]).map (·.name)).Nodup) :
    ∃ w', (define name methods).run w = .ok w.registry.classes.length w' ∧
      Made fixed w name methods w' := by
  let id := w.registry.classes.length
  let new : Class := ⟨name, w.tables.size, [], none, 0⟩
  have hnew : (withClass w name).registry.classes[id]? = some new := by
    simp [withClass, id, new, Registry.withClass]
  obtain ⟨w₁, t, hbind, hbound⟩ := run_bindAll id new (methods ++ [objectCount id])
    (withClass w name) .empty (by simp [withClass, new]) hnodup
  let w₂ : World := { w₁ with
    tables := w₁.tables.modify w.registry.root fun t => t.set (.text name) (.table w.tables.size) }
  have hrun : (define name methods).run w = .ok id w₂ := by
    rw [run_define_open methods w hvalid hfree,
      Run.run_bind_of_ok ((run_append id _ hnew).trans hbind)]
    rfl
  refine ⟨w₂, hrun, ?_, ?_, ?_, hbound.root, ?_, ?_⟩
  · refine .trans (.ofNew (withClass_extends fixed w name) (Nat.le_refl _)
      (hbound.ext.mono fun i hi => hi.2)) ?_
    exact .modifyTable w₁ w.registry.root hroot _
  · have := hbound.ext.size
    simp only [withClass, Array.size_push] at this
    simp only [w₂, Array.size_modify]
    omega
  · show w₁.registry.classNames = _
    rw [hbound.names]
    simp [withClass, Registry.classNames, Registry.withClass]
  · obtain ⟨c, hc, htable, -⟩ := hbound.ext.registry.classes id new hnew
    refine ⟨c, hc, htable, ?_⟩
    have htrap := congrArg (fun l => l[id]?) hbound.traps
    simp only [List.getElem?_map, hc, hnew, Option.map_some] at htrap
    exact Option.some.inj htrap
  · refine ⟨t, ?_, fun m hm => ?_, fun n hn => ?_⟩
    · simp only [w₂, Array.getElem?_modify, if_neg hne.symm]
      exact hbound.table
    · obtain ⟨k, hget, hk⟩ := hbound.member m hm
      exact ⟨k, _, hget, hk, rfl, rfl⟩
    · rw [hbound.absent n hn]
      rfl

end

end Classes

end ClusterScript.Script
