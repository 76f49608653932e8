import ClusterScript.Proofs.Script.Acts

/-!
# Single actions as acts

Each primitive action is one deed, or none, however it ends, and actions put
together are rows of acts.

* `Run.Traced`: an action that takes any furnished world on by acts.
* `Run.askCluster_does`, `update_does`: what changes the cluster or an instance.
-/
namespace ClusterScript.Script

open Selector (Kind)

/-- An action that takes a world on by acts, however it ends. -/
def Run.Traced [Library] {α : Type} (act : Run α) : Prop :=
  ∀ w : World, w.Furnished → act.Ends w (fun _ w' => w.Does w') w.Does

section

variable [Library] {α β : Type} {w w₁ w' : World} {x : Run α} {f : α → Run β}

namespace Run.Traced

/-! ## Putting actions together -/

theorem leads (h : Traced x) (hw : w.Furnished) : x.Ends w (fun _ => w.Leads) w.Leads :=
  (h w hw).mono (fun _ _ => World.Does.leads) fun _ => World.Does.leads

theorem ends (h : Traced x) (hlead : w.Does w₁) (hw : w.Furnished) :
    x.Ends w₁ (fun _ => w.Does) w.Does :=
  (h w₁ (hlead.furnished hw)).mono (fun _ _ => hlead.trans) fun _ => hlead.trans

theorem pure (v : α) : Traced (Pure.pure v : Run α) := fun w _ => .pure (.refl w)

theorem bind (hx : Traced x) (hf : ∀ a, Traced (f a)) : Traced (x >>= f) := fun w hw =>
  Ends.bind (hx w hw) fun a _ hlead => (hf a).ends hlead hw

theorem map {g : α → β} (hx : Traced x) : Traced (g <$> x) := by
  rw [map_eq_pure_bind]
  exact hx.bind fun _ => pure _

theorem raise (v : Value) : Traced (Run.raise v : Run α) := fun w _ => .of_error rfl (.refl w)

theorem fault (e : Fault) : Traced (Run.fault e : Run α) := raise _

theorem refuse (r : Refusal) : Traced (Run.refuse r : Run α) := fault _

theorem complain (text : String) : Traced (Run.complain text : Run α) := raise _

theorem stop (e : Halt) : Traced (throw e : Run α) := fun w _ => .of_error rfl (.refl w)

theorem lift (result : Except Fault α) : Traced (Run.lift result) := fun w _ =>
  .lift (fun _ _ => .refl w) (.refl w)

theorem liftRefusal (result : Except Refusal α) : Traced (Run.liftRefusal result) := fun w _ =>
  .liftRefusal (fun _ _ => .refl w) (.refl w)

theorem get : Traced (MonadState.get : Run World) := fun w _ => .get (.refl w)

theorem registry : Traced Run.registry := fun w _ => .registry (.refl w)

theorem host : Traced Run.host := fun w _ => .host (fun _ _ => .refl w) (.refl w)

theorem lookup (i : Instance) : Traced (Run.lookup i) := registry.bind fun _ => lift _

theorem notFound (i : Instance) : Traced (Run.notFound i : Run α) := registry.bind fun _ => fault _

/-- What is caught has taken the world on too. -/
theorem tryCatch {handle : Halt → Run α} (hx : Traced x) (hhandle : ∀ e, Traced (handle e)) :
    Traced (MonadExcept.tryCatch x handle) := by
  intro w hw
  cases hrun : x.run w with
  | ok v w₁ =>
    have hcaught : (MonadExcept.tryCatch x handle).run w = .ok v w₁ := by
      show EStateM.tryCatch x handle w = .ok v w₁
      unfold EStateM.tryCatch
      rw [show x w = .ok v w₁ from hrun]
    exact .of_ok hcaught ((hx w hw).ok v w₁ hrun)
  | error e w₁ =>
    refine Ends.of_run_eq ((hhandle e).ends ((hx w hw).error e w₁ hrun) hw) ?_
    show EStateM.tryCatch x handle w = (handle e).run w₁
    unfold EStateM.tryCatch
    rw [show x w = .error e w₁ from hrun]
    rfl

/-! ## The script's own affairs -/

theorem modifyOwn {g : World → World} (hregistry : ∀ w, (g w).registry = w.registry)
    (hhost : ∀ w, (g w).host = w.host) : Traced (modify g : Run Unit) := fun w _ =>
  .of_ok rfl (.own (hregistry w) (hhost w))

theorem modifyGetOwn {g : World → α × World} (hregistry : ∀ w, (g w).2.registry = w.registry)
    (hhost : ∀ w, (g w).2.host = w.host) : Traced (modifyGet g : Run α) := fun w _ =>
  .of_ok rfl (.own (hregistry w) (hhost w))

theorem newTable (t : Table) : Traced (Run.newTable t) :=
  modifyGetOwn (fun _ => rfl) fun _ => rfl

theorem newSequence (values : List Value) : Traced (Run.newSequence values) :=
  (newTable _).bind fun _ => pure _

theorem getIn (id : Nat) (key : Value) : Traced (Run.getIn id key) := fun w _ =>
  .of_ok rfl (.refl w)

theorem table (id : Nat) : Traced (Run.table id) := fun w _ => .of_ok rfl (.refl w)

theorem setIn (id : Nat) (key value : Value) : Traced (Run.setIn id key value) :=
  modifyOwn (fun _ => rfl) fun _ => rfl

theorem print (text : String) : Traced (Run.print text) :=
  modifyOwn (fun _ => rfl) fun _ => rfl

/-- A conversion makes tables and nothing else. -/
theorem fromJson (mode : NumberMode) (j : Json) : Traced (Script.fromJson mode j) := by
  intro w _
  obtain ⟨v, w', hbuild, hgrown⟩ := build_grows mode j w
  refine .of_ok ((fromJson_eq_build mode j w).trans hbuild) (.own ?_ ?_) <;> rw [hgrown.rest]

/-! ## Single deeds -/

/-- A new instance; one of a list has to be of a class of lists, and the namespace that it keeps
is at hand. -/
theorem newInstance_does {w : World} {cls : Nat} {state : InstanceState}
    (hplain : state.isFixed = false)
    (hlist : state.isList = false ∨ ∃ r : Resource, w.registry.classId? r.listClass = some cls)
    (hkept : ∀ ns, state.namespace? = some ns → w.Addresses ns) :
    (Run.newInstance cls state).Ends w (fun _ => w.Does) w.Does := by
  have h := Ends.newInstance cls state w
  exact ⟨fun i w' hrun => .of_founded (.made hplain hlist hrun) (.of_names hkept rfl) rfl,
    fun e w' hrun => h.error e w' hrun ▸ .refl w⟩

theorem newInstance (cls : Nat) {state : InstanceState} (hplain : state.isFixed = false)
    (hlist : state.isList = false) (hnone : state.namespace? = none) :
    Traced (Run.newInstance cls state) :=
  fun _ _ => newInstance_does hplain (.inl hlist) fun ns h => by rw [hnone] at h; cases h

theorem newInstanceOf_does {w : World} (name : String) {state : InstanceState}
    (hplain : state.isFixed = false)
    (hlist : state.isList = false ∨ ∃ r : Resource, name = r.listClass)
    (hkept : ∀ ns, state.namespace? = some ns → w.Addresses ns) :
    (Run.newInstanceOf name state).Ends w (fun _ => w.Does) w.Does := by
  refine .bind_of_ok run_registry ?_
  rw [Registry.requireClass]
  cases hid : w.registry.classId? name with
  | none => exact .bind_of_error rfl (.refl w)
  | some id =>
    refine .bind_of_ok (a := id) rfl (newInstance_does hplain (hlist.imp_right ?_) hkept)
    rintro ⟨r, rfl⟩
    exact ⟨r, hid⟩

theorem newInstanceOf (name : String) {state : InstanceState} (hplain : state.isFixed = false)
    (hlist : state.isList = false ∨ ∃ r : Resource, name = r.listClass)
    (hnone : state.namespace? = none) : Traced (Run.newInstanceOf name state) :=
  fun _ _ => newInstanceOf_does name hplain hlist fun ns h => by rw [hnone] at h; cases h

/-- A question to the cluster, but not for a log, where the namespace that it names is at hand. -/
theorem askCluster_does {w : World} {operation : Cluster → Except Fault α × Cluster}
    (request : ClusterRequest) (h : ∀ c, (operation c).2 = request.answered c)
    (hlog : (Deed.asked request).ofLog = false)
    (hnames : ∀ ns, request.namespace? = some ns → w.Addresses ns) :
    (Run.askCluster operation).Ends w (fun _ w' => w.Does w' ∧ w.Stays w') w.Does := by
  have hasked : ∀ session, w.host = some session → w.Does
      { w with host := some { session with cluster := (operation session.cluster).2 } } := by
    intro session hw
    rw [h]
    exact .of_founded (.asked hw) (.of_names hnames rfl) hlog
  exact Ends.askCluster
    (fun session _ hw _ => ⟨hasked session hw, ⟨rfl, by rw [hw, Option.map_some, Option.map_some]⟩⟩)
    (fun session _ hw _ => hasked session hw) (.refl w)

theorem setNamespace (ns : String) : Traced (Run.setNamespace ns) := by
  intro w _
  refine .bind (P := fun session w' => w.host = some session ∧ w' = w)
    (.host (fun session h => ⟨h, rfl⟩) (.refl w)) ?_
  rintro session w ⟨hw, rfl⟩
  exact .of_ok rfl (.of_step (.moved hw) rfl rfl rfl)

theorem currentNamespace : Traced Run.currentNamespace := host.bind fun _ => pure _

end Run.Traced

end

/-! ## Instances that change -/

section

variable [Library] {w w₁ : World} {i : Instance} {old state : InstanceState}

open Run.Traced

/-- The state of an instance that was found before may be replaced now, by one that keeps a
namespace at hand. -/
theorem update_does (hw : w.Furnished) (hi : w.registry.lookup i = .ok old)
    (hbecomes : old.Becomes state) (hlog : (Deed.changed i state).ofLog = false)
    (hlead : w.Does w₁) (hkept : ∀ ns, state.namespace? = some ns → w₁.Addresses ns) :
    (Run.update i state).Ends w₁ (fun _ => w.Does) w.Does := by
  obtain ⟨now, hnow, hstate⟩ := (hlead.carries hw).kept i old hi
  have hchange : now.Becomes state := by
    rcases hstate with rfl | hpast
    · exact hbecomes
    · exact hpast.branch hbecomes
  exact .of_ok rfl (hlead.trans (.of_founded (.changed hnow hchange) (.of_names hkept rfl) hlog))

namespace Tally

theorem hitsOf_bind {α : Type} {f : Int64 → Run α}
    (hf : ∀ hits w, w.Furnished → w.registry.lookup i = .ok (.tally hits) →
      (f hits).Ends w (fun _ => w.Does) w.Does) : (hitsOf i >>= f).Traced := by
  intro w hw
  refine .bind (P := fun hits w' => w' = w ∧ w.registry.lookup i = .ok (.tally hits)) ?_ ?_
  · refine .lookup_bind (fun state hstate => ?_) (.refl w)
    cases state with
    | tally hits => exact .pure ⟨rfl, hstate⟩
    | _ => exact .notFound (.refl w)
  · rintro hits w ⟨rfl, hi⟩
    exact hf hits w hw hi

theorem hitsOf_traced (i : Instance) : (hitsOf i).Traced := by
  refine (lookup i).bind fun state => ?_
  cases state with
  | tally hits => exact pure _
  | _ => exact notFound _

theorem performOn_traced (i : Instance) (b : TallyBody) (args : List Value) :
    (performOn i b args).Traced := by
  cases b with
  | hit =>
    exact hitsOf_bind fun hits w hw hi =>
      .bind (update_does hw hi .tally rfl (.refl w) fun _ h => by cases h)
        fun _ _ hlead => .pure hlead
  | set =>
    refine hitsOf_bind fun hits w hw hi => ?_
    split
    · exact .bind (update_does hw hi .tally rfl (.refl w) fun _ h => by cases h)
        fun _ _ hlead => .pure hlead
    · exact .refuse (.refl w)
  | hits => exact (hitsOf_traced i).bind fun _ => pure _
  | mistaken =>
    refine (lookup i).bind fun state => ?_
    cases state with
    | tally hits => exact notFound _
    | _ => exact pure _
  | fail => exact fault _
  | _ => exact pure _

theorem performFor_traced (cls : Nat) (b : TallyBody) (args : List Value) :
    (performFor cls b args).Traced := by
  cases b with
  | make => exact (newInstance cls rfl rfl rfl).bind fun _ => pure _
  | _ => exact pure _

theorem member_traced (i : Instance) (name : String) : (member i name).Traced := by
  unfold member
  split
  · exact refuse _
  · exact (hitsOf_traced i).bind fun _ => pure _

end Tally

end

/-! ## Keys and matches -/

namespace Selectors

variable [Library]

theorem collectorKey_traced (i : Instance) (name : String) : (collectorKey i name).Traced := by
  intro w _
  have h := collectorKey_ends i name w
  refine ⟨fun v w' hrun => ?_, fun e w' hrun => h.error e w' hrun ▸ .refl w⟩
  obtain ⟨_, _, _, -, ⟨_, -, -, rfl⟩ | ⟨key, rfl, hadds⟩⟩ := h.ok v w' hrun
  · exact .refl w'
  · exact .of_step (.reached hrun hadds.grown) rfl rfl rfl

theorem makeKey_traced (i : Instance) (wanted : Kind) (args : List Value) :
    (makeKey i wanted args).Traced := by
  intro w _
  have h := makeKey_ends i wanted args w
  refine ⟨fun v w' hrun => ?_, fun e w' hrun => h.error e w' hrun ▸ .refl w⟩
  obtain ⟨_, _, _, _, key, -, rfl, -⟩ := h.ok v w' hrun
  exact .of_step (.named hrun) rfl rfl rfl

theorem newDetachedKey_traced (kind : Kind) (args : List Value) :
    (newDetachedKey kind args).Traced := by
  intro w _
  have h := newDetachedKey_ends kind args w
  refine ⟨fun v w' hrun => ?_, fun e w' hrun => h.error e w' hrun ▸ .refl w⟩
  obtain ⟨_, key, rfl, -⟩ := h.ok v w' hrun
  exact .of_step (.detached hrun) rfl rfl rfl

/-- A match, where the class of the key has the method for it. -/
theorem compare_does {w : World} {i : Instance} {operator : Selector.Operator}
    (hcompares : w.Compares i operator) (args : List Value) :
    (compare i operator args).Ends w (fun _ => w.Does) w.Does := by
  have h := compare_ends i operator args w
  refine ⟨fun v w' hrun => ?_, fun e w' hrun => h.error e w' hrun ▸ .refl w⟩
  obtain ⟨sink, e, he, -⟩ := h.ok v w' hrun
  obtain ⟨-, hoperator, -⟩ := (expressionOf_ends i operator args w).ok _ _ he
  have hmatch : ∀ key o, (Deed.matched i e).match? = some (key, o) → w.Compares key o := by
    rintro _ _ ⟨⟩
    rwa [hoperator]
  exact .of_founded (.matched he hrun) ⟨nofun, hmatch⟩ rfl

end Selectors

end ClusterScript.Script
