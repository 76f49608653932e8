import ClusterScript.Proofs.Script.ClassTables
import ClusterScript.Proofs.Script.Endings
import ClusterScript.Script.Engine

/-!
# The classes of selectors in a session

A session starts with the classes that queries are written with: keys,
collectors and selectors, for labels and for fields. As long as no script
assigns to the tables of these classes, a member of a collector or of a key is
a method of the class or goes through its trap.

* `World.Intact`: the classes are there, with their methods and traps.
* `installed_intact`: a session starts with them.
* `installed_shows`: the classes of the selectors themselves.
-/
namespace ClusterScript.Script

open Selector (Kind)

/-- A class that a script finds with a trap and with exactly its own methods. -/
structure World.Offers (w : World) (name : String) (trap : Trap) (methods : List Method)
    (cls : Nat) : Prop where
  id : w.registry.classId? name = some cls
  table : ∃ c, w.registry.classes[cls]? = some c ∧ c.trap = some trap ∧ 2 ≤ c.table ∧
    w.Holds c.table cls (methods ++ [Classes.objectCount cls])

/-- A class that a script finds with exactly its own methods. -/
structure World.Shows (w : World) (name : String) (methods : List Method) (cls : Nat) :
    Prop where
  id : w.registry.classId? name = some cls
  table : ∃ c, w.registry.classes[cls]? = some c ∧ 2 ≤ c.table ∧
    w.Holds c.table cls (methods ++ [Classes.objectCount cls])

/-- The classes that queries need are as a session has them from the start. -/
structure World.Intact (w : World) : Prop where
  key : ∀ kind, ∃ cls, w.Offers (keyClass kind) (.path kind) (Selectors.keyMethods kind) cls
  collector : ∀ kind, ∃ cls,
    w.Offers (collectorClass kind) .key (Selectors.collectorMethods kind) cls
  selector : ∀ kind, ∃ cls, w.registry.classId? (selectorClass kind) = some cls
  list : ∀ r : Resource, ∃ cls, w.registry.classId? r.listClass = some cls

section

variable {w w' : World} {name : String} {trap : Trap} {methods : List Method} {cls : Nat}

theorem World.Offers.extends (h : w.Offers name trap methods cls)
    (hw : w.Extends (2 ≤ ·) w') : w'.Offers name trap methods cls := by
  obtain ⟨c, hc, htrap, htable, hholds⟩ := h.table
  obtain ⟨c', hc', htable', htrap'⟩ := hw.registry.classes cls c hc
  refine ⟨hw.registry.classId? h.id, c', hc', htrap' trap htrap, by omega, ?_⟩
  rw [htable']
  exact hholds.extends hw htable

theorem World.Offers.shows (h : w.Offers name trap methods cls) : w.Shows name methods cls := by
  obtain ⟨c, hc, -, htable, hholds⟩ := h.table
  exact ⟨h.id, c, hc, htable, hholds⟩

theorem World.Shows.extends (h : w.Shows name methods cls) (hw : w.Extends (2 ≤ ·) w') :
    w'.Shows name methods cls := by
  obtain ⟨c, hc, htable, hholds⟩ := h.table
  obtain ⟨c', hc', htable', -⟩ := hw.registry.classes cls c hc
  refine ⟨hw.registry.classId? h.id, c', hc', by omega, ?_⟩
  rw [htable']
  exact hholds.extends hw htable

theorem World.Intact.extends (h : w.Intact) (hw : w.Extends (2 ≤ ·) w') : w'.Intact where
  key kind := (h.key kind).imp fun _ h => h.extends hw
  collector kind := (h.collector kind).imp fun _ h => h.extends hw
  selector kind := (h.selector kind).imp fun _ h => hw.registry.classId? h
  list r := (h.list r).imp fun _ h => hw.registry.classId? h

end

/-! ## Setting up -/

/-- A world that is being set up: its classes, and the two tables that name things. -/
structure World.Ready (w : World) (names : List String) : Prop where
  names : w.registry.classNames = names
  root : w.registry.root = 1
  size : 2 ≤ w.tables.size

namespace Engine

section

variable {w : World} {names : List String} {name : String} {methods : List Method}
variable {F : World → Prop}

open Run

/-- Nothing but the tables has changed, and none of those that matter later. -/
theorem setGlobal_ends (name : String) (v : Value) (hw : w.Ready names) :
    (setGlobal name v).Ends w (fun _ w' => w'.Ready names ∧ w.Extends (2 ≤ ·) w') F :=
  .of_ok rfl ⟨⟨hw.names, hw.root, by simpa using hw.size⟩, .modifyTable w 0 (by omega) _⟩

theorem setFunctions_ends (functions : List (String × HostFunction)) (hw : w.Ready names) :
    (setFunctions functions).Ends w (fun _ w' => w'.Ready names ∧ w.Extends (2 ≤ ·) w') F := by
  induction functions generalizing w with
  | nil => exact .pure ⟨hw, .refl w⟩
  | cons f rest ih =>
    refine .bind (setGlobal_ends f.1 (.host f.2) hw) fun _ w₁ h₁ => ?_
    exact (ih h₁.1).mono (fun _ _ h => ⟨h.1, h₁.2.trans h.2⟩) fun _ h => h

theorem newTable_ends (t : Table) (hw : w.Ready names) :
    (newTable t).Ends w (fun _ w' => w'.Ready names ∧ w.Extends (2 ≤ ·) w') F := by
  refine .of_ok rfl ⟨⟨hw.names, hw.root, ?_⟩, .pushTable w t⟩
  have := hw.size
  simp only [Array.size_push]
  omega

theorem setLibraries_ends (libraries : List (String × List String)) (hw : w.Ready names) :
    (setLibraries libraries).Ends w (fun _ w' => w'.Ready names ∧ w.Extends (2 ≤ ·) w') F := by
  induction libraries generalizing w with
  | nil => exact .pure ⟨hw, .refl w⟩
  | cons l rest ih =>
    obtain ⟨name, members⟩ := l
    refine .bind (newTable_ends (libraryTable name members) hw) fun id w₁ h₁ => ?_
    refine .bind (setGlobal_ends name (.table id) h₁.1) fun _ w₂ h₂ => ?_
    exact (ih h₂.1).mono (fun _ _ h => ⟨h.1, h₁.2.trans (h₂.2.trans h.2)⟩) fun _ h => h

theorem setGlobals_ends (hw : w.Ready names) :
    setGlobals.Ends w (fun _ w' => w'.Ready names ∧ w.Extends (2 ≤ ·) w') F := by
  unfold setGlobals
  generalize functions ++ otherFunctions.map (fun name => (name, HostFunction.library name)) = fs
  generalize libraries = ls
  refine .bind (setGlobal_ends "_G" _ hw) fun _ w₁ h₁ => ?_
  refine .bind (setGlobal_ends "_VERSION" _ h₁.1) fun _ w₂ h₂ => ?_
  refine .bind (setFunctions_ends fs h₂.1) fun _ w₃ h₃ => ?_
  exact (setLibraries_ends ls h₃.1).mono
    (fun _ _ h => ⟨h.1, h₁.2.trans (h₂.2.trans (h₃.2.trans h.2))⟩) fun _ h => h

theorem start_ends (hw : w.Ready names) :
    start.Ends w (fun _ w' => w'.Ready names ∧ w.Extends (2 ≤ ·) w') F := by
  unfold start
  refine .bind (setGlobals_ends hw) fun _ w₁ h₁ => ?_
  refine .bind_of_ok run_registry ?_
  exact (setGlobal_ends _ _ h₁.1).mono (fun _ _ h => ⟨h.1, h₁.2.trans h.2⟩) fun _ h => h

/-- What is known of a class once it is defined. -/
structure Defined (w w' : World) (names : List String) (name : String) (methods : List Method)
    (id : Nat) : Prop where
  ready : w'.Ready (names ++ [name])
  ext : w.Extends (2 ≤ ·) w'
  last : id = names.length
  classId : w'.registry.classId? name = some id
  found : ∃ c, w'.registry.classes[id]? = some c ∧ c.table = w.tables.size ∧ c.trap = none ∧
    w'.Holds c.table id (methods ++ [Classes.objectCount id])

theorem define_ends (hw : w.Ready names) (hvalid : Registry.validName name = true)
    (hfree : name ∉ names) (hnodup : (methods.map (·.name) ++ ["object_count"]).Nodup) :
    (Classes.define name methods).Ends w
      (fun id w' => Defined w w' names name methods id) F := by
  have hsize := hw.size
  have hroot := hw.root
  obtain ⟨w', hrun, hmade⟩ :=
    Classes.run_define (2 ≤ ·) methods w hvalid (by rw [hw.names]; exact hfree)
      (by omega) (by omega) (by rw [List.map_append]; exact hnodup)
  have hlength : w.registry.classes.length = names.length := by
    rw [← hw.names, Registry.classNames, List.length_map]
  have hnames := hmade.names
  rw [hw.names] at hnames
  have hgrew := hmade.size
  obtain ⟨c, hc, htable, htrap⟩ := hmade.found
  refine .of_ok hrun ⟨⟨hnames, hmade.root.trans hroot, by omega⟩, hmade.ext, hlength, ?_, c, hc,
    htable, htrap, ?_⟩
  · rw [Registry.classId?_eq, hnames, List.findIdx?_append, hlength]
    have hnone : names.findIdx? (fun n => decide (n = name)) = none := by
      rw [List.findIdx?_eq_none_iff]
      intro n hn
      rw [decide_eq_false_iff_not]
      rintro rfl
      exact hfree hn
    simp [hnone]
  · rw [htable]
    exact hmade.holds

theorem setTrap_ends {id : Nat} {c : Class} (trap : Trap) (hw : w.Ready names)
    (hc : w.registry.classes[id]? = some c) (htrap : c.trap = none) :
    (Classes.setTrap id trap).Ends w (fun _ w' => w'.Ready names ∧ w.Extends (2 ≤ ·) w' ∧
      ∃ c', w'.registry.classes[id]? = some c' ∧ c'.table = c.table ∧ c'.trap = some trap) F := by
  have hrun : (Classes.setTrap id trap).run w = .ok ()
      { w with registry := w.registry.modifyClass id fun c => { c with trap := some trap } } := by
    have hcls : (lift (w.registry.cls id)).run w = .ok c w := by
      simp only [Registry.cls, hc]
      rfl
    rw [Classes.setTrap, run_bind_of_ok run_registry, run_bind_of_ok hcls]
    rfl
  refine .of_ok hrun ⟨⟨?_, hw.root, hw.size⟩, .ofRegistry w ?_, { c with trap := some trap }, ?_⟩
  · exact (Registry.classNames_modifyClass (f := fun c => { c with trap := some trap }) _ _
      fun _ => rfl).trans hw.names
  · refine Registry.modifyClass_extends _ _ (fun _ => rfl) (fun _ => rfl) fun c' hc' t ht => ?_
    cases hc.symm.trans hc'
    rw [htrap] at ht
    cases ht
  · exact ⟨by simp [Registry.modifyClass, hc], rfl, rfl⟩

/-- A class with a trap is what scripts find it to be. -/
theorem defineTrapped_ends (trap : Trap) (hw : w.Ready names)
    (hvalid : Registry.validName name = true) (hfree : name ∉ names)
    (hnodup : (methods.map (·.name) ++ ["object_count"]).Nodup) :
    (do let id ← Classes.define name methods; Classes.setTrap id trap : Run Unit).Ends w
      (fun _ w' => w'.Ready (names ++ [name]) ∧ w.Extends (2 ≤ ·) w' ∧
        ∃ cls, w'.Offers name trap methods cls) F := by
  refine .bind (define_ends hw hvalid hfree hnodup) fun id w₁ h₁ => ?_
  obtain ⟨c, hc, htable, htrap, hholds⟩ := h₁.found
  refine (setTrap_ends trap h₁.ready hc htrap).mono ?_ fun _ h => h
  intro _ w₂ hend
  obtain ⟨hready, hext, c', hc', htable', htrap'⟩ := hend
  have hsize := hw.size
  refine ⟨hready, h₁.ext.trans hext, id, hext.registry.classId? h₁.classId, c', hc', htrap',
    by omega, ?_⟩
  rw [htable']
  exact hholds.extends hext (by omega)

theorem defineSelectors_ends (kind : Kind) (hw : w.Ready names)
    (hkey : keyClass kind ∉ names) (hcollector : collectorClass kind ∉ names ++ [keyClass kind])
    (hselector : selectorClass kind ∉ names ++ [keyClass kind] ++ [collectorClass kind]) :
    (defineSelectors kind).Ends w
      (fun _ w' => w'.Ready
          (names ++ [keyClass kind] ++ [collectorClass kind] ++ [selectorClass kind]) ∧
        w.Extends (2 ≤ ·) w' ∧
        (∃ cls, w'.Offers (keyClass kind) (.path kind) (Selectors.keyMethods kind) cls) ∧
        (∃ cls, w'.Offers (collectorClass kind) .key (Selectors.collectorMethods kind) cls) ∧
        ∃ cls, w'.Shows (selectorClass kind) (Selectors.selectorMethods kind) cls) F := by
  have hsplit : defineSelectors kind = (do
      (do let id ← Classes.define (keyClass kind) (Selectors.keyMethods kind)
          Classes.setTrap id (.path kind) : Run Unit)
      (do let id ← Classes.define (collectorClass kind) (Selectors.collectorMethods kind)
          Classes.setTrap id .key : Run Unit)
      let _ ← Classes.define (selectorClass kind) (Selectors.selectorMethods kind)) := by
    simp only [defineSelectors, bind_assoc]
  rw [hsplit]
  refine .bind (defineTrapped_ends (.path kind) hw (by cases kind <;> decide) hkey
    (by cases kind <;> decide)) ?_
  intro _ w₁ hend
  obtain ⟨hready₁, hext₁, cls₁, hoffers₁⟩ := hend
  refine .bind (defineTrapped_ends .key hready₁ (by cases kind <;> decide) hcollector
    (by cases kind <;> decide)) ?_
  intro _ w₂ hend
  obtain ⟨hready₂, hext₂, cls₂, hoffers₂⟩ := hend
  refine .bind (define_ends hready₂ (by cases kind <;> decide) hselector
    (by cases kind <;> decide)) fun id w₃ h₃ => ?_
  obtain ⟨c, hc, htable, -, hholds⟩ := h₃.found
  have hsize := hready₂.size
  exact .pure ⟨h₃.ready, hext₁.trans (hext₂.trans h₃.ext),
    ⟨cls₁, hoffers₁.extends (hext₂.trans h₃.ext)⟩, ⟨cls₂, hoffers₂.extends h₃.ext⟩,
    id, h₃.classId, c, hc, by omega, hholds⟩

/-! ## Resources -/

/-- What is added to a world without touching its own tables: classes whose tables are new. -/
structure Added (base w : World) (names : List String) : Prop where
  ready : w.Ready names
  ext : base.Extends (2 ≤ ·) w
  fresh : ∀ (id : Nat) (c : Class), base.registry.classes.length ≤ id →
    w.registry.classes[id]? = some c → base.tables.size ≤ c.table ∧ c.table < w.tables.size

variable {base : World}

theorem Added.refl (hw : w.Ready names) : Added w w names where
  ready := hw
  ext := .refl w
  fresh id c hid hc := by
    have hlt : id < w.registry.classes.length := (List.getElem?_eq_some_iff.1 hc).1
    omega

/-- The classes that were there have the tables that they had. -/
theorem Added.step (h : Added base w names) {fixed : Nat → Prop} {w' : World}
    {names' : List String} (hready : w'.Ready names')
    (hlength : w'.registry.classes.length = w.registry.classes.length)
    (hbase : base.Extends (2 ≤ ·) w') (hext : w.Extends fixed w') : Added base w' names' where
  ready := hready
  ext := hbase
  fresh id c' hid hc' := by
    have hlt : id < w.registry.classes.length :=
      hlength ▸ (List.getElem?_eq_some_iff.1 hc').1
    obtain ⟨c, hc, htable, -⟩ := hext.registry.classes id _ (List.getElem?_eq_getElem hlt)
    cases hc.symm.trans hc'
    have := h.fresh id _ hid (List.getElem?_eq_getElem hlt)
    have := hext.size
    omega

theorem length_of_ready (hw : w.Ready names) : w.registry.classes.length = names.length := by
  rw [← hw.names, Registry.classNames, List.length_map]

theorem define_added_ends (hw : Added base w names) (hvalid : Registry.validName name = true)
    (hfree : name ∉ names) (hnodup : (methods.map (·.name) ++ ["object_count"]).Nodup) :
    (Classes.define name methods).Ends w (fun id w' => Added base w' (names ++ [name]) ∧
      w.Extends (2 ≤ ·) w' ∧ base.registry.classes.length ≤ id ∧
      ∃ c, w'.registry.classes[id]? = some c) F := by
  refine (define_ends hw.ready hvalid hfree hnodup).mono (fun id w' h => ?_) fun _ h => h
  have hlength := length_of_ready hw.ready
  have hlength' := length_of_ready h.ready
  rw [List.length_append, List.length_singleton] at hlength'
  have hbase : base.registry.classes.length ≤ w.registry.classes.length := by
    have := hw.ext.registry.names.length_le
    simpa [Registry.classNames] using this
  obtain ⟨c, hc, htable, -, hholds⟩ := h.found
  have hlast := h.last
  refine ⟨⟨h.ready, hw.ext.trans h.ext, fun k c' hk hc' => ?_⟩, h.ext, by omega, c, hc⟩
  have hlt : k < w'.registry.classes.length := (List.getElem?_eq_some_iff.1 hc').1
  by_cases hid : k = id
  · subst hid
    cases hc.symm.trans hc'
    obtain ⟨t, ht, -⟩ := hholds
    have := (Array.getElem?_eq_some_iff.1 ht).1
    have := hw.ext.size
    omega
  · have hlt' : k < w.registry.classes.length := by omega
    obtain ⟨c₁, hc₁, htable₁, -⟩ := h.ext.registry.classes k _ (List.getElem?_eq_getElem hlt')
    cases hc₁.symm.trans hc'
    have := hw.fresh k _ hk (List.getElem?_eq_getElem hlt')
    have := h.ext.size
    omega

theorem append_ends {id : Nat} {c : Class} (hw : Added base w names)
    (hid : base.registry.classes.length ≤ id) (hc : w.registry.classes[id]? = some c)
    (hnodup : (methods.map (·.name)).Nodup) :
    (Classes.append id methods).Ends w (fun _ w' => Added base w' names ∧
      ∃ c, w'.registry.classes[id]? = some c) F := by
  obtain ⟨hfresh, hlt⟩ := hw.fresh id c hid hc
  obtain ⟨w', t, hrun, hbound⟩ :=
    Classes.run_bindAll id c methods w _ (Array.getElem?_eq_getElem hlt) hnodup
  obtain ⟨c', hc', -⟩ := hbound.ext.registry.classes id c hc
  have hsize := hbound.ext.size
  have hready : w'.Ready names :=
    ⟨hbound.names.trans hw.ready.names, hbound.root.trans hw.ready.root,
      Nat.le_trans hw.ready.size hsize⟩
  refine .of_ok ((Classes.run_append id methods hc).trans hrun) ⟨?_, c', hc'⟩
  refine hw.step hready ?_ (.ofNew hw.ext hfresh (hbound.ext.mono fun i hi => hi.2)) hbound.ext
  rw [length_of_ready hready, length_of_ready hw.ready]

theorem setGlobal_added_ends (name : String) (v : Value) (hw : Added base w names) :
    (setGlobal name v).Ends w (fun _ w' => Added base w' names ∧ w.Extends (2 ≤ ·) w') F := by
  refine (setGlobal_ends name v hw.ready).mono (fun _ w' h => ⟨?_, h.2⟩) fun _ h => h
  refine hw.step h.1 ?_ (hw.ext.trans h.2) h.2
  rw [length_of_ready h.1, length_of_ready hw.ready]

/-- The classes of a resource. -/
theorem defineResource_ends (r : Resource) (hw : Added base w names)
    (hlist : r.listClass ∉ names) (hkind : r.kind ∉ names ++ [r.listClass]) :
    (defineResource r).Ends w
      (fun _ w' => Added base w' (names ++ [r.listClass] ++ [r.kind])) F := by
  refine .bind (define_added_ends hw (by cases r <;> decide) hlist (by cases r <;> decide)) ?_
  intro _ w₁ hend
  obtain ⟨hadded₁, -⟩ := hend
  refine .bind (define_added_ends hadded₁ (by cases r <;> decide) hkind
    (by cases r <;> decide)) ?_
  intro id w₂ hend
  obtain ⟨hadded₂, -, hid, hclass⟩ := hend
  have hglobals : ∀ w₃, Added base w₃ (names ++ [r.listClass] ++ [r.kind]) →
      (do setGlobal r.plural (.host (.list r)); setGlobal r.singular (.host (.object r))
        : Run Unit).Ends w₃
          (fun _ w' => Added base w' (names ++ [r.listClass] ++ [r.kind])) F := fun w₃ h₃ =>
    .bind (setGlobal_added_ends _ _ h₃) fun _ _ h =>
      (setGlobal_added_ends _ _ h.1).mono (fun _ _ h => h.1) fun _ h => h
  obtain ⟨c, hc⟩ := hclass
  cases r with
  | pod =>
    exact .bind (append_ends hadded₂ hid hc (by decide)) fun _ w₃ h₃ => hglobals w₃ h₃.1
  | _ =>
    exact .bind (append_ends hadded₂ hid hc (by decide)) fun _ w₃ h₃ => hglobals w₃ h₃.1

/-- The names of the classes of some resources. -/
def resourceClasses (resources : List Resource) : List String :=
  resources.flatMap fun r => [r.listClass, r.kind]

theorem defineResources_ends (resources : List Resource) (hw : Added base w names)
    (hnodup : (names ++ resourceClasses resources).Nodup) :
    (defineResources resources).Ends w
      (fun _ w' => Added base w' (names ++ resourceClasses resources)) F := by
  induction resources generalizing w names with
  | nil => exact .pure (by simpa [resourceClasses] using hw)
  | cons r rest ih =>
    have hsplit : names ++ resourceClasses (r :: rest) =
        names ++ [r.listClass] ++ [r.kind] ++ resourceClasses rest := by
      simp [resourceClasses]
    rw [hsplit] at hnodup ⊢
    have hfree := (List.nodup_append.1 hnodup).1
    rw [List.nodup_append] at hfree
    refine .bind (defineResource_ends r hw ?_ ?_) fun _ w₁ h₁ => ih h₁ hnodup
    · exact fun h => (List.nodup_append.1 hfree.1).2.2 _ h _ (by simp) rfl
    · exact fun h => hfree.2.2 _ h _ (by simp) rfl

/-! ## The whole session -/

theorem classId?_of_ready (hw : w.Ready names) (name : String) :
    w.registry.classId? name = names.findIdx? fun n => n = name := by
  rw [Registry.classId?_eq, hw.names]

/-- The classes of selectors, in the order of their definition. -/
def selectorClasses : List String :=
  ["LabelKey", "LabelCollector", "LabelSelector", "FieldKey", "FieldCollector", "FieldSelector"]

theorem blank_ready (host : Option Host) : (blank host).Ready [] :=
  ⟨rfl, rfl, by simp [blank]⟩

/-- The first half: the functions of the engine and the classes of selectors. -/
theorem selectors_ends (host : Host) :
    (do start; defineSelectors .label; defineSelectors .field : Run Unit).Ends (blank (some host))
      (fun _ w' => w'.Ready selectorClasses ∧ (blank (some host)).Extends (2 ≤ ·) w' ∧
        (∀ kind, ∃ cls, w'.Offers (keyClass kind) (.path kind) (Selectors.keyMethods kind) cls) ∧
        (∀ kind, ∃ cls,
          w'.Offers (collectorClass kind) .key (Selectors.collectorMethods kind) cls) ∧
        ∀ kind, ∃ cls,
          w'.Shows (selectorClass kind) (Selectors.selectorMethods kind) cls) F := by
  refine .bind (start_ends (blank_ready (some host))) ?_
  intro _ w₁ hend
  obtain ⟨hready₁, hext₁⟩ := hend
  refine .bind (defineSelectors_ends .label hready₁ (by decide) (by decide) (by decide)) ?_
  intro _ w₂ hend
  obtain ⟨hready₂, hext₂, hkey, hcollector, hselector⟩ := hend
  refine (defineSelectors_ends .field hready₂ (by decide) (by decide) (by decide)).mono ?_
    fun _ h => h
  intro _ w₃ hend
  obtain ⟨hready₃, hext₃, hkey₃, hcollector₃, hselector₃⟩ := hend
  refine ⟨hready₃, hext₁.trans (hext₂.trans hext₃), ?_, ?_, ?_⟩
  · intro kind
    cases kind with
    | label => exact hkey.imp fun _ h => h.extends hext₃
    | field => exact hkey₃
  · intro kind
    cases kind with
    | label => exact hcollector.imp fun _ h => h.extends hext₃
    | field => exact hcollector₃
  · intro kind
    cases kind with
    | label => exact hselector.imp fun _ h => h.extends hext₃
    | field => exact hselector₃

/-- The second half: what is added for resources leaves the classes of selectors alone. -/
theorem resources_ends (hw : w.Ready selectorClasses) :
    (do
      setFunctions [("labels", .selector .label), ("fields", .selector .field)]
      defineResources Resource.all
      let pod ← Run.lift ((← Run.registry).requireClass Resource.pod.kind)
      Classes.append pod Objects.podMethods
      Run.setGlobal "make_pod" (.host .makePod)
      let _ ← Classes.define "PodLogs" Logs.methods
      setFunctions
        [("namespace", .setNamespace), ("getenv", .getenv), ("import", .importFile)]
      : Run Unit).Ends w
      (fun _ w' => w'.Ready (selectorClasses ++ resourceClasses Resource.all ++ ["PodLogs"]) ∧
        w.Extends (2 ≤ ·) w') F := by
  refine .bind (setFunctions_ends _ hw) ?_
  intro _ base hend
  obtain ⟨hbase, hext⟩ := hend
  refine .bind (defineResources_ends Resource.all (.refl hbase) (by decide)) fun _ w₁ h₁ => ?_
  refine .bind_of_ok run_registry ?_
  have hclass : w₁.registry.classId? Resource.pod.kind = some 7 := by
    rw [classId?_of_ready h₁.ready]
    decide
  obtain ⟨c, hc, -⟩ := Registry.classes_of_classId? hclass
  have hrequire : (Run.lift (w₁.registry.requireClass Resource.pod.kind)).run w₁ = .ok 7 w₁ := by
    rw [Registry.requireClass, hclass]
    rfl
  refine .bind_of_ok hrequire ?_
  have hlow : base.registry.classes.length ≤ 7 := by
    rw [length_of_ready hbase]
    decide
  refine .bind (append_ends h₁ hlow hc (by decide)) ?_
  intro _ w₃ hend
  obtain ⟨h₃, -⟩ := hend
  refine .bind (setGlobal_added_ends _ _ h₃) ?_
  intro _ w₄ hend
  obtain ⟨h₄, -⟩ := hend
  refine .bind (define_ends h₄.ready (by decide) (by decide) (by decide)) fun id w₅ h₅ => ?_
  exact (setFunctions_ends _ h₅.ready).mono
    (fun _ _ h => ⟨h.1, hext.trans (h₄.ext.trans (h₅.ext.trans h.2))⟩) fun _ h => h

theorem install_ends (host : Host) :
    install.Ends (blank (some host)) (fun _ w' => w'.Intact ∧ w'.host = some host ∧
      ∀ kind, ∃ cls, w'.Shows (selectorClass kind) (Selectors.selectorMethods kind) cls) F := by
  have hsplit : install = (do
      (do start; defineSelectors .label; defineSelectors .field : Run Unit)
      setFunctions [("labels", .selector .label), ("fields", .selector .field)]
      defineResources Resource.all
      let pod ← Run.lift ((← Run.registry).requireClass Resource.pod.kind)
      Classes.append pod Objects.podMethods
      Run.setGlobal "make_pod" (.host .makePod)
      let _ ← Classes.define "PodLogs" Logs.methods
      setFunctions
        [("namespace", .setNamespace), ("getenv", .getenv), ("import", .importFile)]) := by
    simp only [install, bind_assoc]
  rw [hsplit]
  refine .bind (selectors_ends host) ?_
  intro _ w₁ hend
  obtain ⟨hready, hext, hkey, hcollector, hselector⟩ := hend
  refine (resources_ends hready).mono ?_ fun _ h => h
  intro _ w₂ hend
  obtain ⟨hready₂, hext₂⟩ := hend
  refine ⟨⟨fun kind => ?_, fun kind => ?_, fun kind => ?_, fun r => ?_⟩, ?_,
    fun kind => (hselector kind).imp fun _ h => h.extends hext₂⟩
  · exact (hkey kind).imp fun _ h => h.extends hext₂
  · exact (hcollector kind).imp fun _ h => h.extends hext₂
  · exact (hselector kind).imp fun _ h => hext₂.registry.classId? h.id
  · rw [classId?_of_ready hready₂]
    exact Option.isSome_iff_exists.1 (by cases r <;> decide)
  · rw [hext₂.host, hext.host]
    rfl

end

end Engine

/-- What setting up a session comes to. -/
theorem installed_all (host : Host) : (Engine.installed host).Intact ∧
    (Engine.installed host).host = some host ∧
    ∀ kind, ∃ cls,
      (Engine.installed host).Shows (selectorClass kind) (Selectors.selectorMethods kind) cls := by
  have h := Engine.install_ends (F := fun _ => False) host
  unfold Engine.installed Engine.after
  split
  · next w hrun => exact h.ok _ w hrun
  · next w hrun => exact (h.error _ w hrun).elim

/-- **A session starts with the classes of selectors as they are meant to be.** -/
theorem installed_intact (host : Host) :
    (Engine.installed host).Intact ∧ (Engine.installed host).host = some host :=
  ⟨(installed_all host).1, (installed_all host).2.1⟩

/-- The classes of the selectors themselves show their methods at the start. -/
theorem installed_shows (host : Host) (kind : Kind) : ∃ cls,
    (Engine.installed host).Shows (selectorClass kind) (Selectors.selectorMethods kind) cls :=
  (installed_all host).2.2 kind

end ClusterScript.Script
