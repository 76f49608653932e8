import ClusterScript.Proofs.Script.Conversion
import ClusterScript.Script.Scope

/-!
# How actions end

An action ends with a value or without one, and in both cases in a world.
`Ends` states both outcomes at once; it is proved part by part along the
action.

* `Ends.bind`: from the parts of a sequence to the whole.
* `Yields`: what holds of every value that an action ends with.
* `World.Untouched`: what a failed call must leave as it was.
* `Quiet`: actions that leave all of it alone, however they end.
* `Declines`: actions that fail and change nothing.
-/
namespace ClusterScript

/-- What a cluster in memory keeps: its objects, and what was deleted. -/
def Cluster.kept? : Cluster → Option (List Json × List (String × String × String))
  | .store s => some (s.objects, s.deleted)
  | .client _ => none

namespace Script

/-- An action ends with a value in a world as `P` says, or without one in a world as `F` says. -/
structure Run.Ends {α : Type} (act : Run α) (w : World) (P : α → World → Prop)
    (F : World → Prop) : Prop where
  ok : ∀ v w', act.run w = .ok v w' → P v w'
  error : ∀ e w', act.run w = .error e w' → F w'

namespace Run.Ends

variable {α β : Type} {x : Run α} {f : α → Run β} {w w' : World}
variable {P P' : α → World → Prop} {Q : β → World → Prop} {F F' : World → Prop}

theorem of_ok {v : α} (hrun : x.run w = .ok v w') (h : P v w') : Ends x w P F where
  ok v₁ w₁ hrun' := by
    rw [hrun] at hrun'
    cases hrun'
    exact h
  error e w₁ hrun' := by
    rw [hrun] at hrun'
    cases hrun'

theorem of_error {e : Halt} (hrun : x.run w = .error e w') (h : F w') : Ends x w P F where
  ok v₁ w₁ hrun' := by
    rw [hrun] at hrun'
    cases hrun'
  error e₁ w₁ hrun' := by
    rw [hrun] at hrun'
    cases hrun'
    exact h

theorem pure {v : α} (h : P v w) : Ends (Pure.pure v) w P F := .of_ok rfl h

theorem bind (hx : Ends x w P F) (hf : ∀ a w', P a w' → Ends (f a) w' Q F) :
    Ends (x >>= f) w Q F := by
  cases h : x.run w with
  | ok a w₁ =>
    have hrun := run_bind_of_ok (f := f) h
    have hfa := hf a w₁ (hx.ok a w₁ h)
    exact ⟨fun v w' hv => hfa.ok v w' (hrun ▸ hv), fun e w' he => hfa.error e w' (hrun ▸ he)⟩
  | error e w₁ => exact .of_error (by rw [EStateM.run_bind, h]) (hx.error e w₁ h)

theorem mono (hx : Ends x w P F) (hP : ∀ a w', P a w' → P' a w') (hF : ∀ w', F w' → F' w') :
    Ends x w P' F' :=
  ⟨fun v w' h => hP v w' (hx.ok v w' h), fun e w' h => hF w' (hx.error e w' h)⟩

/-- Only the run of an action matters. -/
theorem of_run_eq {y : Run α} (h : Ends y w' P F) (hrun : x.run w = y.run w') : Ends x w P F :=
  ⟨fun v w₁ hx => h.ok v w₁ (hrun ▸ hx), fun e w₁ hx => h.error e w₁ (hrun ▸ hx)⟩

/-- After a part that ends with a known value in a known world. -/
theorem bind_of_ok {a : α} (hrun : x.run w = .ok a w') (h : Ends (f a) w' Q F) :
    Ends (x >>= f) w Q F := h.of_run_eq (run_bind_of_ok hrun)

/-- After a part that ends without a value there is nothing more. -/
theorem bind_of_error {e : Halt} (hrun : x.run w = .error e w') (h : F w') :
    Ends (x >>= f) w Q F := .of_error (by rw [EStateM.run_bind, hrun]) h

theorem fault {f : Fault} (h : F w) : Ends (Run.fault f : Run α) w P F :=
  .of_error rfl h

theorem refuse {r : Refusal} (h : F w) : Ends (Run.refuse r : Run α) w P F :=
  .of_error rfl h

theorem lift {result : Except Fault α} (hdone : ∀ v, result = .ok v → P v w)
    (hfailed : F w) : Ends (Run.lift result) w P F := by
  cases result with
  | ok v => exact .of_ok rfl (hdone v rfl)
  | error f => exact .of_error rfl hfailed

theorem liftRefusal {result : Except Refusal α} (hdone : ∀ v, result = .ok v → P v w)
    (hfailed : F w) : Ends (Run.liftRefusal result) w P F := by
  cases result with
  | ok v => exact .of_ok rfl (hdone v rfl)
  | error r => exact .of_error rfl hfailed

theorem get {P : World → World → Prop} (h : P w w) :
    Ends (MonadState.get : Run World) w P F := .of_ok rfl h

theorem host {P : Host → World → Prop} (hdone : ∀ h, w.host = some h → P h w)
    (hfailed : F w) : Ends Run.host w P F := by
  refine bind_of_ok run_get ?_
  cases h : w.host with
  | none => exact fault hfailed
  | some h' => exact pure (hdone h' h)

theorem currentNamespace (w : World) :
    Ends Run.currentNamespace w (fun current w' => w' = w ∧
      ∃ session, w.host = some session ∧ session.currentNamespace = current) (· = w) :=
  bind (host (P := fun session w' => w' = w ∧ w.host = some session) (fun _ h => ⟨rfl, h⟩) rfl)
    fun session _ h => pure ⟨h.1, session, h.2, rfl⟩

theorem registry {P : Registry → World → Prop} (h : P w.registry w) :
    Ends Run.registry w P F := .of_ok rfl h

theorem notFound {i : Instance} (h : F w) : Ends (Run.notFound i : Run α) w P F :=
  .of_error rfl h

theorem lookup {i : Instance} {P : InstanceState → World → Prop}
    (hdone : ∀ state, w.registry.lookup i = .ok state → P state w) (hfailed : F w) :
    Ends (Run.lookup i) w P F := bind_of_ok run_registry (lift hdone hfailed)

/-- After a look-up, which leaves the world as it is. -/
theorem lookup_bind {i : Instance} {f : InstanceState → Run β}
    (hfound : ∀ state, w.registry.lookup i = .ok state → Ends (f state) w Q F) (hfailed : F w) :
    Ends (Run.lookup i >>= f) w Q F := by
  refine bind (lookup (P := fun state w' => w.registry.lookup i = .ok state ∧ w' = w)
    (fun _ h => ⟨h, rfl⟩) hfailed) ?_
  rintro state _ ⟨hstate, rfl⟩
  exact hfound state hstate

/-- After a part that only looks at the world. -/
theorem bind_same {P : α → Prop} (hx : Ends x w (fun a w' => w' = w ∧ P a) (· = w))
    (hf : ∀ a, P a → Ends (f a) w Q F) (hfailed : F w) : Ends (x >>= f) w Q F := by
  refine bind (hx.mono (fun _ _ h => h) fun w' h => h ▸ hfailed) ?_
  rintro a w' ⟨rfl, ha⟩
  exact hf a ha

/-- After a computation that may fail. -/
theorem lift_bind {result : Except Fault α} (hdone : ∀ v, result = .ok v → Ends (f v) w Q F)
    (hfailed : F w) : Ends (Run.lift result >>= f) w Q F := by
  cases result with
  | ok v => exact hdone v rfl
  | error e => exact bind_of_error rfl hfailed

/-- After a computation that may be refused. -/
theorem liftRefusal_bind {result : Except Refusal α}
    (hdone : ∀ v, result = .ok v → Ends (f v) w Q F) (hfailed : F w) :
    Ends (Run.liftRefusal result >>= f) w Q F := by
  cases result with
  | ok v => exact hdone v rfl
  | error r => exact bind_of_error rfl hfailed

/-- An instance of a class is allocated where the class is there; else nothing happens. -/
theorem newInstance (cls : Nat) (state : InstanceState) (w : World) :
    Ends (Run.newInstance cls state) w (fun i w' => i = ⟨cls, w.registry.slots.size⟩ ∧
      cls < w.registry.classes.length ∧
      w' = { w with registry := w.registry.allocated cls state }) (· = w) := by
  refine bind_of_ok run_registry ?_
  cases h : w.registry.classes[cls]? with
  | none =>
    have hnone : w.registry.allocate cls state = .error (Registry.undefinedClass cls) := by
      rw [Registry.allocate, Registry.cls, h]
      rfl
    rw [hnone]
    exact bind_of_error rfl rfl
  | some c =>
    rw [Registry.allocate_eq h]
    exact bind_of_ok rfl (of_ok rfl ⟨rfl, (List.getElem?_eq_some_iff.1 h).1, rfl⟩)

theorem newSequence {values : List Value} {P : Value → World → Prop}
    (h : P (.table w.tables.size) { w with tables := w.tables.push (.ofList values) }) :
    Ends (Run.newSequence values) w P F := .of_ok rfl h

/-- The cluster answers, and is what it becomes by answering. -/
theorem askCluster {operation : Cluster → Except Fault α × Cluster}
    (hdone : ∀ h v, w.host = some h → (operation h.cluster).1 = .ok v →
      P v { w with host := some { h with cluster := (operation h.cluster).2 } })
    (hrefused : ∀ h e, w.host = some h → (operation h.cluster).1 = .error e →
      F { w with host := some { h with cluster := (operation h.cluster).2 } })
    (hfailed : F w) : Ends (Run.askCluster operation) w P F := by
  refine bind (host (P := fun h w' => w.host = some h ∧ w' = w)
    (fun h hw => ⟨hw, rfl⟩) hfailed) ?_
  intro h _ hend
  obtain ⟨hw, rfl⟩ := hend
  specialize hdone h
  specialize hrefused h
  revert hdone hrefused
  obtain ⟨result, cluster⟩ := operation h.cluster
  intro hdone hrefused
  cases result with
  | ok v => exact .of_ok rfl (hdone v hw rfl)
  | error e => exact .of_error rfl (hrefused e hw rfl)

end Run.Ends

/-- An action ends with a value, as `P` says. -/
abbrev Run.Gives {α : Type} (act : Run α) (w : World) (P : α → World → Prop) : Prop :=
  act.Ends w P fun _ => False

namespace Run.Gives

variable {α β : Type} {x : Run α} {w : World} {P Q : α → World → Prop}

theorem exists_ok (h : Gives x w P) : ∃ v w', x.run w = .ok v w' ∧ P v w' := by
  cases hrun : x.run w with
  | ok v w' => exact ⟨v, w', rfl, h.ok v w' hrun⟩
  | error e w' => exact (h.error e w' hrun).elim

theorem weaken (h : Gives x w P) (hP : ∀ v w', P v w' → Q v w') : Gives x w Q :=
  h.mono hP fun _ => id

/-- Nothing is caught where nothing is raised. -/
theorem tryCatch (h : Gives x w P) (handle : Halt → Run α) :
    Gives (MonadExcept.tryCatch x handle) w P := by
  obtain ⟨v, w', hrun, hP⟩ := h.exists_ok
  refine Ends.of_ok ?_ hP
  show EStateM.tryCatch x handle w = .ok v w'
  unfold EStateM.tryCatch
  rw [show x w = .ok v w' from hrun]

end Run.Gives

/-! ## The values of actions -/

/-- An action whose values, if it ends with one, are all as `P` says. -/
def Run.Yields {α : Type} (act : Run α) (P : α → Prop) : Prop :=
  ∀ w v w', act.run w = .ok v w' → P v

section

variable {α β : Type} {w : World} {x : Run α} {f : α → Run β}

namespace Run.Yields

variable {P : α → Prop} {Q : β → Prop}

theorem pure {v : α} (h : P v) : Yields (Pure.pure v) P := by
  rintro w _ _ ⟨⟩
  exact h

theorem fault (e : Fault) : Yields (Run.fault e : Run α) P := fun w _ _ h => by cases h

theorem bind (hx : Yields x P) (hf : ∀ a, P a → Yields (f a) Q) : Yields (x >>= f) Q := by
  intro w v w' hrun
  obtain ⟨a, w₁, ha, hv⟩ := Run.bind_ok hrun
  exact hf a (hx w a w₁ ha) w₁ v w' hv

/-- Whatever is done before is of no concern. -/
theorem after (hf : ∀ a, Yields (f a) Q) : Yields (x >>= f) Q :=
  bind (P := fun _ => True) (fun _ _ _ _ => trivial) fun a _ => hf a

theorem map {g : α → β} (hx : Yields x fun a => Q (g a)) : Yields (g <$> x) Q := by
  rw [map_eq_pure_bind]
  exact hx.bind fun _ => pure

end Run.Yields

theorem Run.Ends.yields {P : α → World → Prop} {F : World → Prop} {Q : α → Prop}
    (h : x.Ends w P F) (hx : x.Yields Q) : x.Ends w (fun v w' => P v w' ∧ Q v) F :=
  ⟨fun v w' hrun => ⟨h.ok v w' hrun, hx w v w' hrun⟩, h.error⟩

end

/-! ## Leaving everything alone -/

/-- The same instances in the same states, the same classes with the same counts, the same
namespace, and the same objects and deletions in the cluster. -/
structure World.Untouched (w w' : World) : Prop where
  registry : w'.registry = w.registry
  namespaceName : w'.host.map Host.currentNamespace = w.host.map Host.currentNamespace
  kept : w'.host.map (fun h => h.cluster.kept?) = w.host.map fun h => h.cluster.kept?

namespace World.Untouched

variable {w w₁ w' : World}

theorem refl (w : World) : w.Untouched w := ⟨rfl, rfl, rfl⟩

theorem trans (h : w.Untouched w₁) (h' : w₁.Untouched w') : w.Untouched w' :=
  ⟨h'.registry.trans h.registry, h'.namespaceName.trans h.namespaceName, h'.kept.trans h.kept⟩

theorem of_grown {except : Option Nat} (h : w.Grown except w') : w.Untouched w' := by
  rw [h.rest]
  exact ⟨rfl, rfl, rfl⟩

end World.Untouched

/-- An action that leaves everything alone, however it ends. -/
def Run.Quiet {α : Type} (act : Run α) : Prop :=
  ∀ w, act.Ends w (fun _ => w.Untouched) w.Untouched

namespace Run.Quiet

variable {α β : Type} {x : Run α} {f : α → Run β}

theorem pure (v : α) : Quiet (Pure.pure v : Run α) := fun w => .pure (.refl w)

theorem ends (h : Quiet x) {w₀ w : World} (hw : w₀.Untouched w) :
    x.Ends w (fun _ => w₀.Untouched) w₀.Untouched :=
  (h w).mono (fun _ _ => hw.trans) fun _ => hw.trans

theorem bind (hx : Quiet x) (hf : ∀ a, Quiet (f a)) : Quiet (x >>= f) := fun w =>
  Ends.bind (hx w) fun a _ hw => (hf a).ends hw

theorem fault (f : Fault) : Quiet (Run.fault f : Run α) := fun w => .fault (.refl w)

theorem refuse (r : Refusal) : Quiet (Run.refuse r : Run α) := fun w => .refuse (.refl w)

theorem lift (result : Except Fault α) : Quiet (Run.lift result) := fun w =>
  Ends.lift (fun _ _ => .refl w) (.refl w)

theorem liftRefusal (result : Except Refusal α) : Quiet (Run.liftRefusal result) := fun w =>
  Ends.liftRefusal (fun _ _ => .refl w) (.refl w)

theorem get : Quiet (MonadState.get : Run World) := fun w => .get (.refl w)

theorem registry : Quiet Run.registry := fun w => .registry (.refl w)

theorem lookup (i : Instance) : Quiet (Run.lookup i) := registry.bind fun _ => lift _

theorem notFound (i : Instance) : Quiet (Run.notFound i : Run α) := registry.bind fun _ => fault _

theorem host : Quiet Run.host := by
  refine get.bind fun w => ?_
  split
  · exact pure _
  · exact fault _

theorem currentNamespace : Quiet Run.currentNamespace := host.bind fun _ => pure _

theorem newTable (t : Table) : Quiet (Run.newTable t) := fun _ => .of_ok rfl ⟨rfl, rfl, rfl⟩

theorem newSequence (values : List Value) : Quiet (Run.newSequence values) :=
  (newTable _).bind fun _ => pure _

/-- A conversion makes tables and nothing else. -/
theorem fromJson (mode : NumberMode) (j : Json) : Quiet (Script.fromJson mode j) := by
  intro w
  obtain ⟨v, w', hbuild, hgrown⟩ := build_grows mode j w
  exact .of_ok ((fromJson_eq_build mode j w).trans hbuild) (.of_grown hgrown)

/-- An operation of the cluster that keeps its objects and its record. -/
theorem askCluster {operation : Cluster → Except Fault α × Cluster}
    (h : ∀ c, (operation c).2.kept? = c.kept?) : Quiet (Run.askCluster operation) := by
  intro w
  have hkept : ∀ session, w.host = some session →
      w.Untouched { w with
        host := some { session with cluster := (operation session.cluster).2 } } := by
    intro session hw
    exact ⟨rfl, by simp [hw], by simp [hw, h]⟩
  exact Ends.askCluster (fun session _ hw _ => hkept session hw)
    (fun session _ hw _ => hkept session hw) (.refl w)

end Run.Quiet

/-! ## Failing without doing anything -/

/-- An action fails with a fault, and changes nothing. -/
def Run.Declines {α : Type} (act : Run α) (w : World) (f : Fault) : Prop :=
  act.run w = .error (.raised (.fault f)) w

namespace Run.Declines

variable {α β : Type} {x : Run α} {g : α → Run β} {w : World} {f : Fault}

theorem bind (h : Declines x w f) : Declines (x >>= g) w f := by
  unfold Declines at *
  rw [EStateM.run_bind, h]

theorem after {a : α} (hx : x.run w = .ok a w) (h : Declines (g a) w f) : Declines (x >>= g) w f :=
  (run_bind_of_ok hx).trans h

theorem lookup {i : Instance} (h : w.registry.lookup i = .error f) :
    Declines (Run.lookup i) w f := by
  refine after run_registry ?_
  rw [h]
  rfl

end Run.Declines

end Script

end ClusterScript
