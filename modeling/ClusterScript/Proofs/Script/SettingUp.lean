import ClusterScript.Proofs.Script.Deeds

/-!
# Setting up without looking at the host

What a session starts with does not depend on its host: classes, methods and
tables are the same in every session. So what they are can be read off one of
them.

* `Run.Blind`: actions that neither look at the host nor change it.
* `installed_eq`: the first world of any session is that of one session, with
  another host.
* `Moment.defines`: at every moment the classes have the methods that they
  started with.
* `Moment.exists_tables`, `Moment.exists_instance`: moments with something at
  hand.
-/
namespace ClusterScript.Script

/-- An action comes to the same whatever the host is, and leaves the host alone. -/
def Run.Blind {α : Type} (act : Run α) : Prop :=
  ∀ (w : World) (h : Option Host), act.run { w with host := h } = match act.run w with
    | .ok v w' => .ok v { w' with host := h }
    | .error e w' => .error e { w' with host := h }

namespace Run.Blind

variable {α β : Type} {x : Run α} {f : α → Run β}

theorem pure (v : α) : Blind (Pure.pure v : Run α) := fun _ _ => rfl

theorem bind (hx : Blind x) (hf : ∀ a, Blind (f a)) : Blind (x >>= f) := by
  intro w h
  have hrun := hx w h
  cases hw : x.run w with
  | ok a w₁ =>
    rw [hw] at hrun
    rw [run_bind_of_ok hrun, run_bind_of_ok hw]
    exact hf a w₁ h
  | error e w₁ =>
    rw [hw] at hrun
    rw [EStateM.run_bind, EStateM.run_bind, hrun, hw]

theorem lift (result : Except Fault α) : Blind (Run.lift result) := by
  intro w h
  cases result <;> rfl

theorem registry : Blind Run.registry := fun _ _ => rfl

theorem setRegistry (r : Registry) : Blind (Run.setRegistry r) := fun _ _ => rfl

theorem newTable (t : Table) : Blind (Run.newTable t) := fun _ _ => rfl

theorem setIn (id : Nat) (key value : Value) : Blind (Run.setIn id key value) := fun _ _ => rfl

theorem setGlobal (name : String) (value : Value) : Blind (Run.setGlobal name value) :=
  setIn _ _ _

/-! ## Classes -/

theorem bindAll (id : Nat) (c : Class) : ∀ methods : List Method,
    Blind (Classes.bindAll id c methods)
  | [] => pure ()
  | _ :: rest => registry.bind fun _ => (setRegistry _).bind fun _ => (setIn _ _ _).bind fun _ =>
    bindAll id c rest

theorem append (id : Nat) (methods : List Method) : Blind (Classes.append id methods) :=
  registry.bind fun _ => (lift _).bind fun c => bindAll id c methods

theorem define (name : String) (methods : List Method) : Blind (Classes.define name methods) :=
  (newTable _).bind fun _ => registry.bind fun _ => (lift _).bind fun _ =>
    (setRegistry _).bind fun _ => (append _ _).bind fun _ => (setIn _ _ _).bind fun _ => pure _

theorem setTrap (id : Nat) (trap : Trap) : Blind (Classes.setTrap id trap) :=
  registry.bind fun _ => (lift _).bind fun _ => setRegistry _

/-! ## A session -/

open Engine

theorem setFunctions : ∀ functions : List (String × HostFunction),
    Blind (Engine.setFunctions functions)
  | [] => pure ()
  | _ :: rest => (setGlobal _ _).bind fun _ => setFunctions rest

theorem setLibraries : ∀ libraries : List (String × List String),
    Blind (Engine.setLibraries libraries)
  | [] => pure ()
  | _ :: rest => (newTable _).bind fun _ => (setGlobal _ _).bind fun _ => setLibraries rest

theorem start : Blind Engine.start := by
  have hglobals : Blind setGlobals :=
    (setGlobal _ _).bind fun _ => (setGlobal _ _).bind fun _ => (setFunctions _).bind fun _ =>
      setLibraries _
  exact hglobals.bind fun _ => registry.bind fun _ => setGlobal _ _

theorem defineSelectors (kind : Selector.Kind) : Blind (Engine.defineSelectors kind) :=
  (define _ _).bind fun _ => (setTrap _ _).bind fun _ => (define _ _).bind fun _ =>
    (setTrap _ _).bind fun _ => (define _ _).bind fun _ => pure _

theorem defineResource (r : Resource) : Blind (Engine.defineResource r) := by
  refine (define _ _).bind fun _ => (define _ _).bind fun id => ?_
  have hglobals : Blind (do
      Run.setGlobal r.plural (.host (.list r))
      Run.setGlobal r.singular (.host (.object r)) : Run Unit) :=
    (setGlobal _ _).bind fun _ => setGlobal _ _
  have hfinders : Blind (do
      if r.findsPods then Classes.append id (Objects.finderMethods r)
      Run.setGlobal r.plural (.host (.list r))
      Run.setGlobal r.singular (.host (.object r)) : Run Unit) := by
    cases r.findsPods with
    | true => exact (append _ _).bind fun _ => hglobals
    | false => exact hglobals
  cases r.isMutable with
  | true => exact (append _ _).bind fun _ => hfinders
  | false => exact hfinders

theorem defineResources : ∀ resources : List Resource, Blind (Engine.defineResources resources)
  | [] => pure ()
  | r :: rest => (defineResource r).bind fun _ => defineResources rest

theorem install : Blind Engine.install :=
  start.bind fun _ => (defineSelectors _).bind fun _ => (defineSelectors _).bind fun _ =>
    (setFunctions _).bind fun _ => (defineResources _).bind fun _ => registry.bind fun _ =>
    (lift _).bind fun _ => (append _ _).bind fun _ => (setGlobal _ _).bind fun _ =>
    (define _ _).bind fun _ => setFunctions _

end Run.Blind

/-- The first world of a session but for its host. -/
theorem installed_eq (host other : Host) :
    Engine.installed host = { Engine.installed other with host := some host } := by
  have h := Run.Blind.install (Engine.blank (some other)) (some host)
  have hblank : { Engine.blank (some other) with host := some host } =
      Engine.blank (some host) := rfl
  rw [hblank] at h
  unfold Engine.installed Engine.after
  rw [h]
  cases Engine.install.run (Engine.blank (some other)) <;> rfl

theorem installed_registry (host other : Host) :
    (Engine.installed host).registry = (Engine.installed other).registry := by
  rw [installed_eq host other]

/-- A session starts without instances. -/
theorem installed_slots (host : Host) : (Engine.installed host).registry.slots = #[] := by
  have hsize : (Engine.installed default).registry.slots.size = 0 := by decide +kernel
  rw [installed_registry host default]
  exact Array.eq_empty_of_size_eq_zero hsize

namespace Moment

variable {host : Host}

theorem defines [Library] (m : Moment host) {name : String} {method : Method}
    (h : (Engine.installed default).registry.Defines name method) :
    m.world.registry.Defines name method := by
  refine m.carries.defines ?_
  rwa [installed_registry host default]

/-! ## Moments of short sessions -/

/-- The first moment of a session. -/
def first [Library] (host : Host) : Moment host := ⟨[], _, .refl _⟩

theorem first_host [Library] (host : Host) : (first host).world.host = some host :=
  (installed_intact host).2

/-- A script can make tables, one after the other. -/
theorem exists_tables [Library] (m : Moment host) (tables : Array Table) : ∃ m' : Moment host,
    m'.world = { m.world with tables := m.world.tables ++ tables } := by
  let w : World := { m.world with tables := m.world.tables ++ tables }
  exact ⟨⟨_, w, .step m.steps (.own rfl rfl)⟩, rfl⟩

/-- A session can make an instance of a class; a list needs a class of lists. -/
theorem exists_instance [Library] (m : Moment host) {name : String} {cls : Nat}
    (state : InstanceState)
    (hcls : m.world.registry.classId? name = some cls) (hplain : state.isFixed = false)
    (hlist : state.isList = false ∨
      ∃ r : Resource, m.world.registry.classId? r.listClass = some cls) :
    ∃ (m' : Moment host) (i : Instance), m'.world.host = m.world.host ∧
      m'.world.tables = m.world.tables ∧ m'.world.registry.classId? name = some i.cls ∧
      m'.world.registry.lookup i = .ok state := by
  obtain ⟨c, hc, -⟩ := Registry.classes_of_classId? hcls
  have hrun : (Run.newInstance cls state).run m.world = .ok ⟨cls, m.world.registry.slots.size⟩
      { m.world with registry := m.world.registry.allocated cls state } := by
    rw [Run.newInstance, Run.run_bind_of_ok Run.run_registry, Registry.allocate_eq hc]
    rfl
  exact ⟨⟨_, _, .step m.steps (.made hplain hlist hrun)⟩, _, rfl, rfl,
    (Registry.classId?_allocated name).trans hcls, Registry.lookup_allocated⟩

/-- A session can make an object of a class. -/
theorem exists_object [Library] (m : Moment host) {name : String} {cls : Nat}
    (hcls : m.world.registry.classId? name = some cls) (object : Json) :
    ∃ (m' : Moment host) (i : Instance), m'.world.host = m.world.host ∧
      m'.world.registry.classId? name = some i.cls ∧
      m'.world.registry.lookup i = .ok (.object object) := by
  obtain ⟨m', i, hhost, -, hi⟩ := m.exists_instance (.object object) hcls rfl (.inl rfl)
  exact ⟨m', i, hhost, hi⟩

end Moment

end ClusterScript.Script
