import ClusterScript.Proofs.Cluster.Requests
import ClusterScript.Proofs.Registry.Carrying
import ClusterScript.Proofs.Script.Keys
import ClusterScript.Proofs.Selector.Meaning
import ClusterScript.Session.Basic

/-!
# What scripts do with the host

A script changes what the host keeps only by a few deeds: it opens collectors,
reaches for keys, matches on them, closes selectors, makes and changes other
instances, asks the cluster and moves to another namespace. Whatever it does
between them is its own affair.

* `Deed`, `Step`: the deeds, and how each takes a world to the next.
* `Steps`: deeds one after the other, the latest first.
* `Step.effect`: what each deed adds and changes.
* `Step.carries`: no deed loses an instance, or changes a key, a collector or a
  selector.
* `Moment`: a moment of a session, with the deeds that led to it.
-/
namespace ClusterScript.Script

open Selector (Kind Expression)

namespace Selectors

/-! ## The parts of making selectors and matching -/

/-- A collector and its list, before its block is called. -/
def openCollector (kind : Kind) : Run (Instance × Nat) := do
  let (list, r) := (← Run.registry).newRecording
  Run.setRegistry r
  let known ← makeKnown (sinkFor kind .label list) wellKnownKeys
  let collector ← Run.newInstanceOf (collectorClass kind) (.collector kind list known)
  return (collector, list)

/-- The selector of a list, once the block has returned. -/
def closeSelector (kind : Kind) (list : Nat) : Run (Value × String) := do
  let expressions := (← Run.registry).recording list
  let rendered ← Run.liftRefusal (Selector.render kind expressions)
  let i ← Run.newInstanceOf (selectorClass kind) (.selector expressions rendered)
  return (.instance i, rendered)

/-- What a match on a key reports, and where. -/
def expressionOf (i : Instance) (operator : Selector.Operator) (args : List Value) :
    Run (Sink × Expression) := do
  match ← Run.lookup i with
  | .key path sink => do
    let values ← liftFlatten (operands (← get).tables args)
    let e ← Run.liftRefusal (Expression.make? (Text.join "." path) operator values)
    return (sink, e)
  | _ => Run.notFound i

theorem newCollector_eq (call : Caller) (kind : Kind) (block : Value) :
    newCollector call kind block = (do
      let opened ← openCollector kind
      let _ ← callFromHost call block [.instance opened.1]
      return opened) := by
  simp only [newCollector, openCollector, bind_assoc, pure_bind]

theorem newSelector_eq (call : Caller) (kind : Kind) (block : Value) :
    newSelector call kind block = (do
      let opened ← openCollector kind
      let _ ← callFromHost call block [.instance opened.1]
      closeSelector kind opened.2) := by
  simp only [newSelector, newCollector_eq, closeSelector, bind_assoc, pure_bind]

theorem compare_eq (i : Instance) (operator : Selector.Operator) (args : List Value) :
    compare i operator args = (do
      let (sink, e) ← expressionOf i operator args
      report sink e) := by
  simp only [compare, expressionOf, bind_assoc]
  refine bind_congr fun state => ?_
  cases state with
  | key path sink => simp only [bind_assoc, pure_bind]
  | _ => rfl

end Selectors

/-! ## Deeds -/

inductive Deed
  /-- Something with tables, locals, functions or the output. -/
  | own
  /-- A collector was made, along with its keys. -/
  | opened (kind : Kind) (collector : Instance) (known : List (String × Instance))
  /-- The trap of a collector made a key. -/
  | reached (collector key : Instance)
  /-- A collector was asked for a key of a kind by name. -/
  | named (collector : Instance) (wanted : Kind) (key : Instance)
  /-- The trap of a key made one with a longer path. -/
  | extended (key longer : Instance)
  /-- A key was made outside of collectors. -/
  | detached (key : Instance)
  /-- A match on a key succeeded. -/
  | matched (key : Instance) (e : Expression)
  /-- A selector was made of what a collector has recorded. -/
  | closed (collector selector : Instance)
  /-- An instance of another kind was made. -/
  | made (i : Instance) (state : InstanceState)
  | changed (i : Instance) (state : InstanceState)
  | asked (request : ClusterRequest)
  /-- The session moved to another namespace. -/
  | moved (ns : String)

/-- What a deed does to a world. -/
inductive Step [Library] : World → Deed → World → Prop
  | own {w w' : World} : w'.registry = w.registry → w'.host = w.host → Step w .own w'
  | opened {w w' : World} {kind : Kind} {collector : Instance} {list : Nat}
      {known : List (String × Instance)} :
      (Selectors.openCollector kind).run w = .ok (collector, list) w' →
      w'.registry.lookup collector = .ok (.collector kind list known) →
        Step w (.opened kind collector known) w'
  | reached {w w' : World} {collector key : Instance} {name : String} :
      (Selectors.collectorKey collector name).run w = .ok (.instance key) w' →
      w.registry.slots.size < w'.registry.slots.size → Step w (.reached collector key) w'
  | named {w w' : World} {collector key : Instance} {wanted : Kind} {args : List Value} :
      (Selectors.makeKey collector wanted args).run w = .ok (.instance key) w' →
        Step w (.named collector wanted key) w'
  | extended {w w' : World} {key longer : Instance} {c : Class} {kind : Kind} {name : String} :
      w.registry.classes[key.cls]? = some c → c.trap = some (.path kind) →
      (Selectors.extendPath kind key name).run w = .ok (.instance longer) w' →
        Step w (.extended key longer) w'
  | detached {w w' : World} {key : Instance} {kind : Kind} {args : List Value} :
      (Selectors.newDetachedKey kind args).run w = .ok (.instance key) w' →
        Step w (.detached key) w'
  | matched {w w' : World} {key : Instance} {operator : Selector.Operator} {args : List Value}
      {sink : Sink} {e : Expression} :
      (Selectors.expressionOf key operator args).run w = .ok (sink, e) w →
      (Selectors.compare key operator args).run w = .ok () w' → Step w (.matched key e) w'
  | closed {w w' : World} {collector selector : Instance} {kind : Kind} {list : Nat}
      {known : List (String × Instance)} {text : String} :
      w.registry.lookup collector = .ok (.collector kind list known) →
      (Selectors.closeSelector kind list).run w = .ok (.instance selector, text) w' →
        Step w (.closed collector selector) w'
  | made {w w' : World} {cls : Nat} {i : Instance} {state : InstanceState} :
      state.isFixed = false →
      (state.isList = false ∨ ∃ r : Resource, w.registry.classId? r.listClass = some cls) →
      (Run.newInstance cls state).run w = .ok i w' → Step w (.made i state) w'
  | changed {w : World} {i : Instance} {old state : InstanceState} :
      w.registry.lookup i = .ok old → old.Becomes state →
        Step w (.changed i state) { w with registry := w.registry.update i state }
  | asked {w : World} {h : Host} {request : ClusterRequest} :
      w.host = some h → Step w (.asked request)
        { w with host := some { h with cluster := request.answered h.cluster } }
  | moved {w : World} {h : Host} {ns : String} :
      w.host = some h → Step w (.moved ns)
        { w with host := some { h with currentNamespace := namespaceOf ns } }

/-- Deeds one after the other, the latest first. -/
inductive Steps [Library] : World → List Deed → World → Prop
  | refl (w : World) : Steps w [] w
  | step {w w₁ w' : World} {deeds : List Deed} {d : Deed} :
      Steps w deeds w₁ → Step w₁ d w' → Steps w (d :: deeds) w'

theorem Steps.trans [Library] {w w₁ w' : World} {earlier later : List Deed} (h : Steps w earlier w₁)
    (h' : Steps w₁ later w') : Steps w (later ++ earlier) w' := by
  induction h' with
  | refl => exact h
  | step _ hstep ih => exact .step ih hstep

theorem Steps.split [Library] {w w' : World} {earlier later : List Deed}
    (h : Steps w (later ++ earlier) w') :
    ∃ w₁, Steps w earlier w₁ ∧ Steps w₁ later w' := by
  induction later generalizing w' with
  | nil => exact ⟨w', h, .refl w'⟩
  | cons d rest ih =>
    cases h with
    | step hsteps hstep =>
      obtain ⟨w₁, hearlier, hrest⟩ := ih hsteps
      exact ⟨w₁, hearlier, .step hrest hstep⟩

/-! ## Adding instances -/

section

variable {w w₁ w' : World} {i : Instance} {name : String} {state : InstanceState} {kind : Kind}
variable {path : List String} {sink : Sink} {v : Value}

/-- A world with one more instance of a class. -/
structure World.Adds (w : World) (name : String) (state : InstanceState) (i : Instance)
    (w' : World) : Prop where
  cls : w.registry.classId? name = some i.cls
  handle : i.handle = w.registry.slots.size
  world : w' = { w with registry := w.registry.allocated i.cls state }

/-- An instance of a class given by name is added, or nothing happens. -/
theorem newInstanceOf_ends (name : String) (state : InstanceState) (w : World) :
    (Run.newInstanceOf name state).Ends w (fun i w' => w.Adds name state i w') (· = w) := by
  cases hid : w.registry.classId? name with
  | none =>
    obtain ⟨e, hrun⟩ := Run.run_newInstanceOf_undefined hid state
    exact .of_error hrun rfl
  | some id => exact .of_ok (Run.run_newInstanceOf hid state) ⟨hid, rfl, rfl⟩

namespace Selectors

theorem newKey_ends (kind : Kind) (path : List String) (sink : Sink) (w : World) :
    (newKey kind path sink).Ends w (fun v w' => ∃ key, v = .instance key ∧
      w.Adds (keyClass kind) (.key path sink) key w') (· = w) :=
  .bind (newInstanceOf_ends _ _ w) fun key _ hadds => .pure ⟨key, rfl, hadds⟩

/-- The trap of a collector gives a key that was made with it, or makes one. -/
theorem collectorKey_ends (i : Instance) (name : String) (w : World) :
    (collectorKey i name).Ends w (fun v w' => ∃ kind list known,
      w.registry.lookup i = .ok (.collector kind list known) ∧
        ((∃ key, known.lookup name = some key ∧ v = .instance key ∧ w' = w) ∨
          ∃ key, v = .instance key ∧
            w.Adds (keyClass kind) (.key [name] (.record list)) key w')) (· = w) := by
  refine .lookup_bind (fun state hstate => ?_) rfl
  cases state with
  | collector kind list known =>
    dsimp only
    split
    · next key hkey => exact .pure ⟨kind, list, known, hstate, .inl ⟨key, hkey, rfl, rfl⟩⟩
    · exact (newKey_ends _ _ _ w).mono
        (fun _ _ ⟨key, hv, hadds⟩ => ⟨kind, list, known, hstate, .inr ⟨key, hv, hadds⟩⟩)
        fun _ h => h
  | _ => exact .notFound rfl

theorem nameArgument_ends (args : List Value) (w : World) :
    (nameArgument args).Ends w (fun _ w' => w' = w) (· = w) := by
  cases args with
  | nil => exact .pure rfl
  | cons v _ => exact .lift (fun _ _ => rfl) rfl

theorem makeKey_ends (i : Instance) (wanted : Kind) (args : List Value) (w : World) :
    (makeKey i wanted args).Ends w (fun v w' => ∃ kind list known path key,
      w.registry.lookup i = .ok (.collector kind list known) ∧ v = .instance key ∧
        w.Adds (keyClass wanted) (.key path (sinkFor kind wanted list)) key w') (· = w) := by
  refine .lookup_bind (fun state hstate => ?_) rfl
  cases state with
  | collector kind list known =>
    refine .bind (nameArgument_ends args w) ?_
    rintro argument w rfl
    cases argument with
    | none => exact .refuse rfl
    | some name =>
      dsimp only
      split
      · exact .refuse rfl
      · exact (newKey_ends _ _ _ w).mono
          (fun _ _ ⟨key, hv, hadds⟩ => ⟨kind, list, known, _, key, hstate, hv, hadds⟩)
          fun _ h => h
  | _ => exact .notFound rfl

theorem extendPath_ends (kind : Kind) (i : Instance) (name : String) (w : World) :
    (extendPath kind i name).Ends w (fun v w' => ∃ path sink key,
      w.registry.lookup i = .ok (.key path sink) ∧ v = .instance key ∧
        w.Adds (keyClass kind) (.key (path ++ [name]) (extendedSink kind sink)) key w')
      (· = w) := by
  refine .lookup_bind (fun state hstate => ?_) rfl
  cases state with
  | key path sink =>
    have hkey : (newKey kind (path ++ [name]) (extendedSink kind sink)).Ends w
        (fun v w' => ∃ path sink key, w.registry.lookup i = .ok (.key path sink) ∧
          v = .instance key ∧
          w.Adds (keyClass kind) (.key (path ++ [name]) (extendedSink kind sink)) key w')
        (· = w) :=
      (newKey_ends _ _ _ w).mono
        (fun _ _ ⟨key, hv, hadds⟩ => ⟨path, sink, key, hstate, hv, hadds⟩) fun _ h => h
    cases kind <;> exact hkey
  | _ => exact .notFound rfl

theorem newDetachedKey_ends (kind : Kind) (args : List Value) (w : World) :
    (newDetachedKey kind args).Ends w (fun v w' => ∃ name key, v = .instance key ∧
      w.Adds (keyClass kind) (.key [name] (.detached name)) key w') (· = w) := by
  refine .bind (nameArgument_ends args w) ?_
  rintro argument w rfl
  cases argument with
  | none => exact .refuse rfl
  | some name =>
    exact (newKey_ends _ _ _ w).mono (fun _ _ ⟨key, hv, hadds⟩ => ⟨name, key, hv, hadds⟩)
      fun _ h => h

/-- A selector keeps what its list holds, and the text of it. -/
theorem closeSelector_ends (kind : Kind) (list : Nat) (w : World) :
    (closeSelector kind list).Ends w (fun closed w' =>
      Selector.render kind (w.registry.recording list) = .ok closed.2 ∧ ∃ selector,
        closed.1 = .instance selector ∧ w.Adds (selectorClass kind)
          (.selector (w.registry.recording list) closed.2) selector w') (· = w) := by
  refine .bind_of_ok Run.run_registry (.liftRefusal_bind (fun text htext => ?_) rfl)
  exact .bind (newInstanceOf_ends _ _ w) fun selector _ hadds =>
    .pure ⟨htext, selector, rfl, hadds⟩

theorem expressionOf_ends (i : Instance) (operator : Selector.Operator) (args : List Value)
    (w : World) :
    (expressionOf i operator args).Ends w (fun matched w' => w' = w ∧
      matched.2.operator = operator ∧
        ∃ path, w.registry.lookup i = .ok (.key path matched.1)) (· = w) := by
  refine .lookup_bind (fun state hstate => ?_) rfl
  cases state with
  | key path sink =>
    refine .bind_of_ok Run.run_get (.bind (P := fun _ w' => w' = w) ?_ ?_)
    · cases operands w.tables args with
      | ok values => exact .pure rfl
      | error stop => cases stop <;> exact .of_error rfl rfl
    · rintro values w rfl
      refine .liftRefusal_bind (fun e he => .pure ⟨rfl, ?_, path, hstate⟩) rfl
      exact (Expression.make?_eq_ok.1 he).2.1
  | _ => exact .notFound rfl

/-- A match is recorded by the list of its key, or dropped; where it fails nothing happens. -/
theorem compare_ends (i : Instance) (operator : Selector.Operator) (args : List Value) (w : World) :
    (compare i operator args).Ends w (fun _ w' => ∃ sink e,
      (expressionOf i operator args).run w = .ok (sink, e) w ∧
        ((∃ list, sink = .record list ∧ w' = { w with registry := w.registry.record list e }) ∨
          sink = .discard ∧ w' = w)) (· = w) := by
  rw [compare_eq]
  have h := expressionOf_ends i operator args w
  cases hrun : (expressionOf i operator args).run w with
  | error e w₁ => exact .bind_of_error hrun (h.error e w₁ hrun)
  | ok matched w₁ =>
    obtain ⟨rfl, -⟩ := h.ok matched w₁ hrun
    refine .bind_of_ok hrun ?_
    obtain ⟨sink, e⟩ := matched
    cases sink with
    | record list => exact .of_ok rfl ⟨_, e, rfl, .inl ⟨list, rfl, rfl⟩⟩
    | discard => exact .of_ok rfl ⟨_, e, rfl, .inr ⟨rfl, rfl⟩⟩
    | detached name => exact .refuse rfl

end Selectors

/-! ## Opening a collector -/

theorem World.Adds.lookup {j : Instance} {found : InstanceState} (h : w.Adds name state i w') :
    w'.registry.lookup j = .ok found ↔
      w.registry.lookup j = .ok found ∨ j = i ∧ found = state := by
  have hi : i = ⟨i.cls, w.registry.slots.size⟩ := by rw [← h.handle]
  rw [h.world, Registry.lookup_allocated_iff, ← hi]

theorem World.Adds.carries (h : w.Adds name state i w') : w.registry.Carries w'.registry := by
  rw [h.world]
  exact Registry.carries_allocated w.registry i.cls state

theorem World.Adds.grown (h : w.Adds name state i w') :
    w.registry.slots.size < w'.registry.slots.size := by
  rw [h.world]
  simp

/-- A key was made for each of some names, and nothing else. -/
structure World.AddsKnown (w : World) (sink : Sink) (names : List String)
    (known : List (String × Instance)) (w' : World) : Prop where
  names : known.map Prod.fst = names
  lookup : ∀ i state, w'.registry.lookup i = .ok state ↔ w.registry.lookup i = .ok state ∨
    ∃ name, (name, i) ∈ known ∧ state = .key [name] sink
  cls : ∀ p ∈ known, w.registry.classId? (keyClass .label) = some p.2.cls
  fresh : ∀ p ∈ known, w.registry.slots.size ≤ p.2.handle
  recordings : w'.registry.recordings = w.registry.recordings
  carries : w.registry.Carries w'.registry
  host : w'.host = w.host

/-- A collector was made with its keys, and a new list for it. -/
structure World.Opens (w : World) (kind : Kind) (collector : Instance) (list : Nat)
    (known : List (String × Instance)) (w' : World) : Prop where
  last : list = w.registry.recordings.size
  names : known.map Prod.fst = wellKnownKeys
  recordings : w'.registry.recordings = w.registry.recordings.push []
  lookup : ∀ i state, w'.registry.lookup i = .ok state ↔ w.registry.lookup i = .ok state ∨
    (∃ name, (name, i) ∈ known ∧ state = .key [name] (Selectors.sinkFor kind .label list)) ∨
      i = collector ∧ state = .collector kind list known
  cls : ∀ p ∈ known, w.registry.classId? (keyClass .label) = some p.2.cls
  fresh : ∀ p ∈ known, w.registry.slots.size ≤ p.2.handle
  clsCollector : w.registry.classId? (collectorClass kind) = some collector.cls
  freshCollector : w.registry.slots.size ≤ collector.handle
  carries : w.registry.Carries w'.registry
  host : w'.host = w.host

namespace Selectors

/-- The keys of well-known names are made where the class of label keys is there. -/
theorem makeKnown_adds (sink : Sink) {id : Nat} : ∀ (names : List String) (w : World),
    w.registry.classId? (keyClass .label) = some id →
      (makeKnown sink names).Ends w (fun known w' => w.AddsKnown sink names known w')
        fun _ => False
  | [], w, _ => .pure ⟨rfl, by simp, by simp, by simp, rfl, .refl _, rfl⟩
  | name :: rest, w, hid => by
    refine .bind (P := fun key w₁ => w.Adds (keyClass .label) (.key [name] sink) key w₁) ?_ ?_
    · exact .of_ok (Run.run_newInstanceOf hid _) ⟨hid, rfl, rfl⟩
    · intro key w₁ hadds
      have hid₁ : w₁.registry.classId? (keyClass .label) = some id :=
        (hadds.carries.classId? _).trans hid
      refine .bind (makeKnown_adds sink rest w₁ hid₁) ?_
      intro known w₂ hknown
      refine .pure ⟨?_, ?_, ?_, ?_, ?_, hadds.carries.trans hknown.carries, ?_⟩
      · rw [List.map_cons, hknown.names]
      · intro i state
        rw [hknown.lookup, hadds.lookup]
        constructor
        · rintro ((h | ⟨rfl, rfl⟩) | ⟨n, hn, rfl⟩)
          · exact .inl h
          · exact .inr ⟨name, List.mem_cons_self, rfl⟩
          · exact .inr ⟨n, List.mem_cons_of_mem _ hn, rfl⟩
        · rintro (h | ⟨n, hn, rfl⟩)
          · exact .inl (.inl h)
          · rcases List.mem_cons.1 hn with heq | hn
            · cases heq
              exact .inl (.inr ⟨rfl, rfl⟩)
            · exact .inr ⟨n, hn, rfl⟩
      · refine List.forall_mem_cons.2 ⟨hadds.cls, fun p hp => ?_⟩
        rw [← hadds.carries.classId?]
        exact hknown.cls p hp
      · refine List.forall_mem_cons.2 ⟨Nat.le_of_eq hadds.handle.symm, fun p hp => ?_⟩
        exact Nat.le_trans hadds.carries.size (hknown.fresh p hp)
      · rw [hknown.recordings, hadds.world]
        rfl
      · rw [hknown.host, hadds.world]

theorem openCollector_ends {id cls : Nat} (hid : w.registry.classId? (keyClass .label) = some id)
    (hcls : w.registry.classId? (collectorClass kind) = some cls) :
    (openCollector kind).Ends w
      (fun opened w' => ∃ known, w.Opens kind opened.1 opened.2 known w') fun _ => False := by
  let w₁ : World := { w with registry := w.registry.newRecording.2 }
  have hcarries₁ : w.registry.Carries w₁.registry := Registry.carries_recordings _ _
  have hset : (Run.setRegistry w.registry.newRecording.2).run w = .ok () w₁ := rfl
  refine .bind_of_ok Run.run_registry (.bind_of_ok hset ?_)
  refine .bind (makeKnown_adds _ wellKnownKeys w₁ hid) ?_
  intro known w₂ hknown
  have hcls₂ : w₂.registry.classId? (collectorClass kind) = some cls :=
    (hknown.carries.classId? _).trans hcls
  have hrun := Run.run_newInstanceOf hcls₂ (.collector kind w.registry.recordings.size known)
  have hadds := (newInstanceOf_ends _ _ w₂).ok _ _ hrun
  refine .bind_of_ok hrun (.pure
    ⟨known, rfl, hknown.names, ?_, ?_, fun p hp => ?_, hknown.fresh, hcls, ?_, ?_, ?_⟩)
  · exact hknown.recordings
  · intro i state
    rw [hadds.lookup, hknown.lookup, or_assoc]
    rfl
  · rw [← hknown.cls p hp]
    rfl
  · exact hknown.carries.size
  · exact hcarries₁.trans (hknown.carries.trans hadds.carries)
  · exact hknown.host

end Selectors

/-! ## What deeds leave alone -/

/-- The classes that selectors are made with are defined, and keys have their traps. -/
structure World.Furnished (w : World) : Prop where
  key : ∀ kind, ∃ id c, w.registry.classId? (keyClass kind) = some id ∧
    w.registry.classes[id]? = some c ∧ c.trap = some (.path kind)
  collector : ∀ kind, ∃ id, w.registry.classId? (collectorClass kind) = some id
  selector : ∀ kind, ∃ id, w.registry.classId? (selectorClass kind) = some id

theorem World.Intact.furnished (h : w.Intact) : w.Furnished where
  key kind := by
    obtain ⟨cls, hoffers⟩ := h.key kind
    obtain ⟨c, hc, htrap, -⟩ := hoffers.table
    exact ⟨cls, c, hoffers.id, hc, htrap⟩
  collector kind := (h.collector kind).imp fun _ hoffers => hoffers.id
  selector := h.selector

theorem World.Furnished.carries (h : w.Furnished) (hw : w.registry.Carries w'.registry) :
    w'.Furnished where
  key kind := by
    obtain ⟨id, c, hid, hc, htrap⟩ := h.key kind
    obtain ⟨c', hc', -, -, htrap'⟩ := hw.classes hc
    exact ⟨id, c', (hw.classId? _).trans hid, hc', htrap'.trans htrap⟩
  collector kind := (h.collector kind).imp fun _ hid => (hw.classId? _).trans hid
  selector kind := (h.selector kind).imp fun _ hid => (hw.classId? _).trans hid

theorem World.Furnished.opens {opened : Instance × Nat} (hw : w.Furnished)
    (h : (Selectors.openCollector kind).run w = .ok opened w') :
    ∃ known, w.Opens kind opened.1 opened.2 known w' := by
  obtain ⟨id, c, hid, -⟩ := hw.key .label
  obtain ⟨cls, hcls⟩ := hw.collector kind
  exact (Selectors.openCollector_ends hid hcls).ok _ _ h

/-- What a deed comes to: the instances it adds or changes, and what is recorded. -/
inductive Deed.Effect [Library] (w : World) : Deed → World → Prop
  | own {w' : World} : w'.registry = w.registry → w'.host = w.host → Effect w .own w'
  | opened {w' : World} {kind : Kind} {collector : Instance} {list : Nat}
      {known : List (String × Instance)} :
      w.Opens kind collector list known w' → Effect w (.opened kind collector known) w'
  | reached {w' : World} {kind : Kind} {collector key : Instance} {list : Nat}
      {known : List (String × Instance)} {name : String} :
      w.registry.lookup collector = .ok (.collector kind list known) →
      w.Adds (keyClass kind) (.key [name] (.record list)) key w' →
        Effect w (.reached collector key) w'
  | named {w' : World} {kind wanted : Kind} {collector key : Instance} {list : Nat}
      {known : List (String × Instance)} {path : List String} :
      w.registry.lookup collector = .ok (.collector kind list known) →
      w.Adds (keyClass wanted) (.key path (Selectors.sinkFor kind wanted list)) key w' →
        Effect w (.named collector wanted key) w'
  | extended {w' : World} {key longer : Instance} {c : Class} {kind : Kind}
      {path : List String} {name : String} {sink : Sink} :
      w.registry.classes[key.cls]? = some c → c.trap = some (.path kind) →
      w.registry.lookup key = .ok (.key path sink) →
      w.Adds (keyClass kind) (.key (path ++ [name]) (extendedSink kind sink)) longer w' →
        Effect w (.extended key longer) w'
  | detached {w' : World} {key : Instance} {kind : Kind} {name : String} :
      w.Adds (keyClass kind) (.key [name] (.detached name)) key w' → Effect w (.detached key) w'
  | recorded {key : Instance} {path : List String} {list : Nat} {e : Expression} :
      w.registry.lookup key = .ok (.key path (.record list)) →
        Effect w (.matched key e) { w with registry := w.registry.record list e }
  | dropped {key : Instance} {path : List String} {e : Expression} :
      w.registry.lookup key = .ok (.key path .discard) → Effect w (.matched key e) w
  | closed {w' : World} {kind : Kind} {collector selector : Instance} {list : Nat}
      {known : List (String × Instance)} {text : String} :
      w.registry.lookup collector = .ok (.collector kind list known) →
      Selector.render kind (w.registry.recording list) = .ok text →
      w.Adds (selectorClass kind) (.selector (w.registry.recording list) text) selector w' →
        Effect w (.closed collector selector) w'
  | made {cls : Nat} {state : InstanceState} :
      state.isFixed = false →
      (state.isList = false ∨ ∃ r : Resource, w.registry.classId? r.listClass = some cls) →
        Effect w (.made ⟨cls, w.registry.slots.size⟩ state)
          { w with registry := w.registry.allocated cls state }
  | changed {i : Instance} {old state : InstanceState} :
      w.registry.lookup i = .ok old → old.Becomes state →
        Effect w (.changed i state) { w with registry := w.registry.update i state }
  | asked {h : Host} {request : ClusterRequest} :
      w.host = some h → Effect w (.asked request)
        { w with host := some { h with cluster := request.answered h.cluster } }
  | moved {h : Host} {ns : String} :
      w.host = some h → Effect w (.moved ns)
        { w with host := some { h with currentNamespace := namespaceOf ns } }

/-- The actions that deeds are made of come to these effects. -/
theorem Step.effect [Library] {d : Deed} (hw : w.Furnished) (h : Step w d w') : d.Effect w w' := by
  cases h with
  | own hregistry hhost => exact .own hregistry hhost
  | opened hopen hcollector =>
    obtain ⟨known, hopens⟩ := hw.opens hopen
    cases ((hopens.lookup _ _).2 (.inr (.inr ⟨rfl, rfl⟩))).symm.trans hcollector
    exact .opened hopens
  | reached hkey hgrown =>
    obtain ⟨kind, list, known, hc, ⟨_, -, -, rfl⟩ | ⟨key, hv, hadds⟩⟩ :=
      (Selectors.collectorKey_ends _ _ w).ok _ _ hkey
    · exact absurd hgrown (Nat.lt_irrefl _)
    · cases hv
      exact .reached hc hadds
  | named hkey =>
    obtain ⟨kind, list, known, path, key, hc, hv, hadds⟩ :=
      (Selectors.makeKey_ends _ _ _ w).ok _ _ hkey
    cases hv
    exact .named hc hadds
  | extended hclass htrap hkey =>
    obtain ⟨path, sink, longer, hold, hv, hadds⟩ :=
      (Selectors.extendPath_ends _ _ _ w).ok _ _ hkey
    cases hv
    exact .extended hclass htrap hold hadds
  | detached hkey =>
    obtain ⟨name, key, hv, hadds⟩ := (Selectors.newDetachedKey_ends _ _ w).ok _ _ hkey
    cases hv
    exact .detached hadds
  | matched he hcompare =>
    obtain ⟨sink', e', he', hkept⟩ := (Selectors.compare_ends _ _ _ w).ok _ _ hcompare
    cases he.symm.trans he'
    obtain ⟨-, -, path, hkey⟩ := (Selectors.expressionOf_ends _ _ _ w).ok _ _ he
    rcases hkept with ⟨list, rfl, rfl⟩ | ⟨rfl, rfl⟩
    · exact .recorded hkey
    · exact .dropped hkey
  | closed hc hclose =>
    obtain ⟨hrender, selector, hv, hadds⟩ := (Selectors.closeSelector_ends _ _ w).ok _ _ hclose
    cases hv
    exact .closed hc hrender hadds
  | made hplain hlist hmade =>
    obtain ⟨rfl, -, rfl⟩ := (Run.Ends.newInstance _ _ w).ok _ _ hmade
    exact .made hplain hlist
  | changed hfound hbecomes => exact .changed hfound hbecomes
  | asked hhost => exact .asked hhost
  | moved hhost => exact .moved hhost

theorem Step.carries [Library] {d : Deed} (hw : w.Furnished) (h : Step w d w') :
    w.registry.Carries w'.registry := by
  cases h.effect hw with
  | own hregistry _ => rw [hregistry]; exact .refl _
  | opened hopens => exact hopens.carries
  | reached _ hadds => exact hadds.carries
  | named _ hadds => exact hadds.carries
  | extended _ _ _ hadds => exact hadds.carries
  | detached hadds => exact hadds.carries
  | recorded _ => exact Registry.carries_recordings _ _
  | dropped _ => exact .refl _
  | closed _ _ hadds => exact hadds.carries
  | made _ _ => exact Registry.carries_allocated _ _ _
  | changed hfound hbecomes => exact Registry.carries_update hfound hbecomes
  | asked _ => exact .refl _
  | moved _ => exact .refl _

theorem Steps.carries [Library] {deeds : List Deed} (hw : w.Furnished) (h : Steps w deeds w') :
    w.registry.Carries w'.registry := by
  induction h with
  | refl => exact .refl _
  | step _ hstep ih => exact ih.trans (hstep.carries (hw.carries ih))

end

/-! ## Moments of sessions -/

/-- A moment of a session that began on a host: what was done so far, and what came of it. -/
structure Moment [Library] (host : Host) where
  deeds : List Deed
  world : World
  steps : Steps (Engine.installed host) deeds world

namespace Moment

variable {host : Host}

theorem carries [Library] (m : Moment host) :
    (Engine.installed host).registry.Carries m.world.registry :=
  m.steps.carries (installed_intact host).1.furnished

theorem furnished [Library] (m : Moment host) : m.world.Furnished :=
  (installed_intact host).1.furnished.carries m.carries

end Moment

end ClusterScript.Script
