import ClusterScript.Proofs.Script.ClassTables
import ClusterScript.Proofs.Script.Endings
import ClusterScript.Script.HostCall

/-!
# The history of a registry

What a registry holds follows from the calls it has answered. Classes are
defined, get more methods and traps, instances are made of them, and the
states of instances are found and replaced, in any order and with any
failures in between.

* `Run.lookupAs`: how the state of an instance is asked for, as one of a sort.
* `Call`, `Call.perform`: the calls.
* `Effect`: what one call does to a registry, and what it answers.
* `Accounts`: what the events so far say about a registry.
* `history`: after any calls, the registry is as the events say.
-/
namespace ClusterScript

/-- The sorts of states. -/
inductive StateSort
  | key
  | collector
  | selector
  | list
  | object
  | logs
  | tally
deriving DecidableEq, Repr

def InstanceState.sort : InstanceState → StateSort
  | .key _ _ => .key
  | .collector _ _ _ => .collector
  | .selector _ _ => .selector
  | .list _ _ => .list
  | .object _ => .object
  | .logs _ _ _ => .logs
  | .tally _ => .tally

namespace Script

/-- The state of an instance, which has to be of a sort. -/
def Run.lookupAs (sort : StateSort) (i : Instance) : Run InstanceState := do
  let state ← Run.lookup i
  if state.sort = sort then return state else Run.notFound i

section

variable {sort : StateSort} {i : Instance}

/-- Asking for a state as one of a sort finds it, or fails; the world stays as it is. -/
theorem run_lookupAs (sort : StateSort) (i : Instance) (w : World) :
    (∃ state, w.registry.lookup i = .ok state ∧ state.sort = sort ∧
      (Run.lookupAs sort i).run w = .ok state w) ∨
    ((∀ state, w.registry.lookup i = .ok state → state.sort ≠ sort) ∧
      ∃ e, (Run.lookupAs sort i).run w = .error e w) := by
  rw [Run.lookupAs]
  cases hfound : w.registry.lookup i with
  | error f =>
    refine .inr ⟨nofun, .raised (.fault f), ?_⟩
    have hlookup : (Run.lookup i).run w = .error (.raised (.fault f)) w := by
      rw [Run.lookup, Run.run_bind_of_ok Run.run_registry, hfound]
      rfl
    rw [EStateM.run_bind, hlookup]
  | ok state =>
    rw [Run.run_bind_of_ok (Run.run_lookup hfound)]
    by_cases hsort : state.sort = sort
    · exact .inl ⟨state, rfl, hsort, by rw [if_pos hsort]; rfl⟩
    · refine .inr ⟨fun _ h => ?_, _, by rw [if_neg hsort]; rfl⟩
      cases h
      exact hsort

theorem run_lookupAs_eq_ok {state : InstanceState} {w : World} :
    (Run.lookupAs sort i).run w = .ok state w ↔
      w.registry.lookup i = .ok state ∧ state.sort = sort := by
  rcases run_lookupAs sort i w with ⟨found, hfound, hsort, hrun⟩ | ⟨hother, e, hrun⟩
  · rw [hrun, hfound]
    constructor
    · rintro ⟨⟩
      exact ⟨rfl, hsort⟩
    · rintro ⟨⟨⟩, -⟩
      rfl
  · rw [hrun]
    exact ⟨nofun, fun h => (hother state h.1 h.2).elim⟩

end

end Script

namespace Registry

open Script (Instance Run World)

/-! ## Calls -/

/-- What is asked of a registry. Writing replaces the state of an instance by one of its sort. -/
inductive Call
  | define (name : String) (methods : List Method)
  | append (id : Nat) (methods : List Method)
  | setTrap (id : Nat) (trap : Trap)
  | create (cls : Nat) (state : InstanceState)
  | find (i : Instance) (sort : StateSort)
  | write (i : Instance) (state : InstanceState)

inductive Answer
  | cls (id : Nat)
  | done
  | made (i : Instance)
  | found (state : InstanceState)

namespace Call

def perform : Call → Run Answer
  | define name methods => do return .cls (← Script.Classes.define name methods)
  | append id methods => do
    Script.Classes.append id methods
    return .done
  | setTrap id trap => do
    Script.Classes.setTrap id trap
    return .done
  | create cls state => do return .made (← Run.newInstance cls state)
  | find i sort => do return .found (← Run.lookupAs sort i)
  | write i state => do
    let _ ← Run.lookupAs state.sort i
    Run.update i state
    return .done

/-- The answer to a call, if there is one, and the world after it. -/
def attempt (c : Call) (w : World) : Option Answer × World :=
  match c.perform.run w with
  | .ok answer w' => (some answer, w')
  | .error _ w' => (none, w')

end Call

/-- A call and its answer; there is none where it failed. -/
structure Event where
  call : Call
  answer : Option Answer

/-- Calls one after the other, whether they fail or not. -/
def attemptAll : List Call → World → List Event × World
  | [], w => ([], w)
  | c :: rest, w =>
    let (answer, w) := c.attempt w
    let (events, w) := attemptAll rest w
    (⟨c, answer⟩ :: events, w)

/-- Name and count of each class. -/
def census (r : Registry) : List (String × Nat) := r.classes.map fun c => (c.name, c.objectCount)

theorem classNames_eq (r : Registry) : r.classNames = r.census.map Prod.fst := by
  simp [classNames, census]

/-- What a call does to a registry, and what it answers. -/
inductive Effect : Call → Registry → Option Answer → Registry → Prop
  | failed (c : Call) (r : Registry) : Effect c r none r
  | defined {name : String} {methods : List Method} {r r' : Registry} :
      name ∉ r.classNames → r'.census = r.census ++ [(name, 0)] → r'.slots = r.slots →
        Effect (.define name methods) r (some (.cls r.classes.length)) r'
  | appended {id : Nat} {methods : List Method} {r r' : Registry} :
      r'.census = r.census → r'.slots = r.slots →
        Effect (.append id methods) r (some .done) r'
  | trapped {id : Nat} {trap : Trap} {r r' : Registry} :
      r'.census = r.census → r'.slots = r.slots → Effect (.setTrap id trap) r (some .done) r'
  | created {cls : Nat} {state : InstanceState} {r : Registry} :
      cls < r.classes.length →
        Effect (.create cls state) r (some (.made ⟨cls, r.slots.size⟩)) (r.allocated cls state)
  | found {i : Instance} {state : InstanceState} {r : Registry} :
      r.lookup i = .ok state → Effect (.find i state.sort) r (some (.found state)) r
  | written {i : Instance} {state old : InstanceState} {r : Registry} :
      r.lookup i = .ok old → old.sort = state.sort →
        Effect (.write i state) r (some .done) (r.update i state)

section

variable {w : World} {id : Nat} {name : String} {c : Class}

/-- Binding methods leaves names, counts and instances alone. -/
theorem run_bindAll_keeps (id : Nat) (c : Class) : ∀ (methods : List Method) (w : World),
    ∃ w', (Script.Classes.bindAll id c methods).run w = .ok () w' ∧
      w'.registry.census = w.registry.census ∧ w'.registry.slots = w.registry.slots
  | [], w => ⟨w, rfl, rfl, rfl⟩
  | m :: rest, w => by
    obtain ⟨w', hrun, hcensus, hslots⟩ :=
      run_bindAll_keeps id c rest (Script.Classes.withMethod w id c m)
    refine ⟨w', by rw [Script.Classes.run_bindAll_cons, hrun], hcensus.trans ?_, hslots⟩
    exact map_modifyClass w.registry id fun _ => rfl

theorem run_append_keeps (methods : List Method) (h : w.registry.classes[id]? = some c) :
    ∃ w', (Script.Classes.append id methods).run w = .ok () w' ∧
      w'.registry.census = w.registry.census ∧ w'.registry.slots = w.registry.slots := by
  rw [Script.Classes.run_append id methods h]
  exact run_bindAll_keeps id c methods w

theorem addClass_eq_error {r : Registry} (h : ¬(validName name = true ∧ name ∉ r.classNames))
    (table : Nat) : r.addClass name table = .error (.classDefinition name) := by
  have htaken : name ∈ r.classNames → (r.classId? name).isSome := by
    intro hmem
    rw [Option.isSome_iff_ne_none, classId?_eq]
    intro hnone
    simpa using List.findIdx?_eq_none_iff.1 hnone name hmem
  rw [addClass, if_pos]
  rw [Bool.or_eq_true, Bool.not_eq_true']
  by_cases hvalid : validName name = true
  · exact .inr (htaken (Classical.not_not.1 fun hfree => h ⟨hvalid, hfree⟩))
  · exact .inl (by simpa using hvalid)

theorem append_ends (id : Nat) (methods : List Method) (w : World) :
    (Script.Classes.append id methods).Ends w
      (fun _ w' => w'.registry.census = w.registry.census ∧ w'.registry.slots = w.registry.slots)
      fun w' => w'.registry = w.registry := by
  cases h : w.registry.classes[id]? with
  | none =>
    refine .bind_of_ok Run.run_registry ?_
    rw [Registry.cls, h]
    exact .bind_of_error rfl rfl
  | some c =>
    obtain ⟨w', hrun, hkept⟩ := run_append_keeps methods h
    exact .of_ok hrun hkept

theorem setTrap_ends (id : Nat) (trap : Trap) (w : World) :
    (Script.Classes.setTrap id trap).Ends w
      (fun _ w' => w'.registry.census = w.registry.census ∧ w'.registry.slots = w.registry.slots)
      fun w' => w'.registry = w.registry := by
  refine .bind_of_ok Run.run_registry (.bind (P := fun _ w' => w' = w) ?_ ?_)
  · exact .lift (fun _ _ => rfl) rfl
  · rintro _ _ rfl
    exact .of_ok rfl ⟨map_modifyClass _ _ fun _ => rfl, rfl⟩

/-- A class is defined where its name is free, and has made no instances yet. -/
theorem define_ends (name : String) (methods : List Method) (w : World) :
    (Script.Classes.define name methods).Ends w
      (fun id w' => id = w.registry.classes.length ∧ name ∉ w.registry.classNames ∧
        w'.registry.census = w.registry.census ++ [(name, 0)] ∧
        w'.registry.slots = w.registry.slots)
      fun w' => w'.registry = w.registry := by
  by_cases h : validName name = true ∧ name ∉ w.registry.classNames
  · obtain ⟨hvalid, hfree⟩ := h
    have hnew : (Script.Classes.withClass w name).registry.classes[w.registry.classes.length]? =
        some ⟨name, w.tables.size, [], none, 0⟩ := by
      simp [Script.Classes.withClass, Registry.withClass]
    obtain ⟨w', hrun, hcensus, hslots⟩ := run_append_keeps
      (methods ++ [Script.Classes.objectCount w.registry.classes.length]) hnew
    refine .of_run_eq (.bind_of_ok hrun ?_)
      (Script.Classes.run_define_open methods w hvalid hfree)
    refine .of_ok rfl ⟨rfl, hfree, hcensus.trans ?_, hslots⟩
    simp [census, Script.Classes.withClass, Registry.withClass]
  · refine .bind_of_ok (Run.run_newTable _) (.bind_of_ok Run.run_registry ?_)
    rw [addClass_eq_error h]
    exact .bind_of_error rfl rfl

/-- A call that is answered has its effect, and one that fails has none. -/
theorem Call.perform_ends (c : Call) (w : World) :
    c.perform.Ends w (fun answer w' => Effect c w.registry (some answer) w'.registry)
      fun w' => w'.registry = w.registry := by
  cases c with
  | define name methods =>
    refine .bind (define_ends name methods w) ?_
    rintro _ w' ⟨rfl, hfree, hcensus, hslots⟩
    exact .pure (.defined hfree hcensus hslots)
  | append id methods =>
    refine .bind (append_ends id methods w) ?_
    rintro _ w' ⟨hcensus, hslots⟩
    exact .pure (.appended hcensus hslots)
  | setTrap id trap =>
    refine .bind (setTrap_ends id trap w) ?_
    rintro _ w' ⟨hcensus, hslots⟩
    exact .pure (.trapped hcensus hslots)
  | create cls state =>
    refine .bind ((Run.Ends.newInstance cls state w).mono (fun _ _ h => h) fun w' h => ?_) ?_
    · rw [h]
    · rintro _ w' ⟨rfl, hcls, rfl⟩
      exact .pure (.created hcls)
  | find i sort =>
    rcases Script.run_lookupAs sort i w with ⟨state, hfound, rfl, hrun⟩ | ⟨-, e, hrun⟩
    · exact .bind_of_ok hrun (.pure (.found hfound))
    · exact .bind_of_error hrun rfl
  | write i state =>
    rcases Script.run_lookupAs state.sort i w with ⟨old, hfound, hsort, hrun⟩ | ⟨-, e, hrun⟩
    · exact .bind_of_ok hrun (.of_ok rfl (.written hfound hsort))
    · exact .bind_of_error hrun rfl

theorem Call.attempt_effect (c : Call) (w : World) :
    Effect c w.registry (c.attempt w).1 (c.attempt w).2.registry := by
  unfold attempt
  have h := c.perform_ends w
  cases hrun : c.perform.run w with
  | ok answer w' => exact h.ok answer w' hrun
  | error e w' =>
    have hsame := h.error e w' hrun
    dsimp only
    rw [hsame]
    exact .failed c w.registry

end

/-! ## What the events say -/

namespace Event

/-- The instance that was made, with its first state. -/
def creation? : Event → Option (Instance × InstanceState)
  | ⟨.create _ state, some (.made i)⟩ => some (i, state)
  | _ => none

/-- The state that the instance of a number was given. -/
def given? (handle : Nat) : Event → Option InstanceState
  | ⟨.create _ state, some (.made i)⟩ => if i.handle = handle then some state else none
  | ⟨.write i state, some _⟩ => if i.handle = handle then some state else none
  | _ => none

end Event

/-- The instances that were made, in the order in which they were. -/
def creations (events : List Event) : List (Instance × InstanceState) :=
  events.filterMap Event.creation?

/-- The states that the instance of a number was given, one after the other. -/
def statesGiven (handle : Nat) (events : List Event) : List InstanceState :=
  events.filterMap (Event.given? handle)

/-- A registry that is as the events say. -/
structure Accounts (events : List Event) (r : Registry) : Prop where
  /-- Instances are numbered in the order in which they were made. -/
  handles : (creations events).map (fun x => x.1.handle) = List.range r.slots.size
  /-- An instance is of the class that was asked for it. -/
  asked : ∀ cls state i, ⟨.create cls state, some (.made i)⟩ ∈ events → i.cls = cls
  /-- A slot keeps its class and the sort of its state. -/
  slots : ∀ (k : Nat) (slot : Slot), r.slots[k]? = some slot →
    ∃ state, (creations events)[k]? = some (⟨slot.cls, k⟩, state) ∧ state.sort = slot.state.sort
  /-- A slot holds what it was given last. -/
  states : ∀ (k : Nat) (slot : Slot), r.slots[k]? = some slot →
    (statesGiven k events).getLast? = some slot.state
  /-- A class counts its instances. -/
  counts : ∀ (id : Nat) (name : String) (count : Nat), r.census[id]? = some (name, count) →
    count = (creations events).countP fun x => x.1.cls = id
  /-- Instances are of classes that are there. -/
  defined : ∀ x ∈ creations events, x.1.cls < r.census.length
  names : (r.census.map Prod.fst).Nodup

section

variable {events : List Event} {e : Event} {c : Call} {answer : Option Answer} {r r' : Registry}
variable {handle cls : Nat} {state : InstanceState} {i : Instance}

theorem creations_append (events : List Event) (e : Event) :
    creations (events ++ [e]) = creations events ++ e.creation?.toList := by
  rw [creations, creations, List.filterMap_append]
  cases h : e.creation? <;> simp [h]

theorem statesGiven_append (handle : Nat) (events : List Event) (e : Event) :
    statesGiven handle (events ++ [e]) = statesGiven handle events ++ (e.given? handle).toList := by
  rw [statesGiven, statesGiven, List.filterMap_append]
  cases h : e.given? handle <;> simp [h]

theorem length_creations (h : Accounts events r) : (creations events).length = r.slots.size := by
  simpa using congrArg List.length h.handles

theorem accounts_empty (root : Nat) : Accounts [] (empty root) where
  handles := rfl
  asked _ _ _ h := nomatch h
  slots _ _ h := by simp [empty] at h
  states _ _ h := by simp [empty] at h
  counts _ _ _ h := by simp [empty, census] at h
  defined _ h := by simp [creations] at h
  names := by simp [empty, census]

theorem statesGiven_append_of_none (events : List Event) (h : e.given? handle = none) :
    statesGiven handle (events ++ [e]) = statesGiven handle events := by
  rw [statesGiven_append, h, Option.toList_none, List.append_nil]

/-- Instances stay of the class that was asked for if the new event makes none of another. -/
theorem Accounts.asked_append (h : Accounts events r)
    (he : ∀ cls state i, e = ⟨.create cls state, some (.made i)⟩ → i.cls = cls) (cls : Nat)
    (state : InstanceState) (i : Instance)
    (hmem : ⟨.create cls state, some (.made i)⟩ ∈ events ++ [e]) : i.cls = cls := by
  rcases List.mem_append.1 hmem with hmem | hmem
  · exact h.asked cls state i hmem
  · exact he cls state i (List.mem_singleton.1 hmem).symm

/-- Nothing is an instance of a class that is not there. -/
theorem Accounts.countP_eq_zero (h : Accounts events r) {id : Nat} (hid : r.census.length ≤ id) :
    (creations events).countP (fun x => x.1.cls = id) = 0 := by
  rw [List.countP_eq_zero]
  intro x hx heq
  have hlt := h.defined x hx
  rw [decide_eq_true_iff.1 heq] at hlt
  exact Nat.not_lt.2 hid hlt

/-- An event that makes no instance and gives none a state, and may define a class. -/
theorem Accounts.quiet (h : Accounts events r) (hmade : e.creation? = none)
    (hgiven : ∀ handle, e.given? handle = none) (hslots : r'.slots = r.slots)
    (hcensus : r'.census = r.census ∨
      ∃ name, name ∉ r.classNames ∧ r'.census = r.census ++ [(name, 0)]) :
    Accounts (events ++ [e]) r' := by
  have hcreations : creations (events ++ [e]) = creations events := by
    rw [creations_append, hmade, Option.toList_none, List.append_nil]
  have hstates : ∀ k, statesGiven k (events ++ [e]) = statesGiven k events := by
    intro k
    exact statesGiven_append_of_none events (hgiven k)
  have hlength : r.census.length ≤ r'.census.length := by
    rcases hcensus with hcensus | ⟨name, -, hcensus⟩ <;> simp [hcensus]
  constructor
  case handles =>
    rw [hcreations, hslots]
    exact h.handles
  case asked =>
    refine h.asked_append ?_
    rintro cls state i rfl
    cases hmade
  case slots =>
    rw [hcreations, hslots]
    exact h.slots
  case states =>
    intro k slot hslot
    rw [hslots] at hslot
    rw [hstates]
    exact h.states k slot hslot
  case counts =>
    intro id name count hid
    rw [hcreations]
    rcases hcensus with hcensus | ⟨new, -, hcensus⟩
    · exact h.counts id name count (hcensus ▸ hid)
    · rw [hcensus] at hid
      by_cases hlt : id < r.census.length
      · rw [List.getElem?_append_left hlt] at hid
        exact h.counts id name count hid
      · -- the new class: no instance is of it yet
        rw [List.getElem?_append_right (Nat.not_lt.1 hlt), List.getElem?_singleton] at hid
        split at hid
        · cases hid
          exact (h.countP_eq_zero (Nat.not_lt.1 hlt)).symm
        · cases hid
  case defined =>
    rw [hcreations]
    exact fun x hx => Nat.lt_of_lt_of_le (h.defined x hx) hlength
  case names =>
    rcases hcensus with hcensus | ⟨name, hfree, hcensus⟩
    · rw [hcensus]
      exact h.names
    · rw [hcensus, List.map_append, List.map_singleton, ← classNames_eq]
      refine List.nodup_append.2 ⟨classNames_eq r ▸ h.names, by simp, ?_⟩
      rintro other hother _ hname rfl
      rw [List.mem_singleton.1 hname] at hother
      exact hfree hother

theorem census_allocated (r : Registry) (cls : Nat) (state : InstanceState) (id : Nat) :
    (r.allocated cls state).census[id]? = r.census[id]?.map fun (name, count) =>
      (name, if id = cls then count + 1 else count) := by
  simp only [census, allocated, modifyClass, List.getElem?_map, List.getElem?_modify,
    eq_comm (a := cls)]
  cases r.classes[id]? with
  | none => rfl
  | some c => by_cases h : id = cls <;> simp [h]

theorem Accounts.created (h : Accounts events r) (hcls : cls < r.classes.length)
    (state : InstanceState) :
    Accounts (events ++ [⟨.create cls state, some (.made ⟨cls, r.slots.size⟩)⟩])
      (r.allocated cls state) := by
  let e : Event := ⟨.create cls state, some (.made ⟨cls, r.slots.size⟩)⟩
  have hcreations : creations (events ++ [e]) =
      creations events ++ [(⟨cls, r.slots.size⟩, state)] := creations_append events e
  have hcount := length_creations h
  have hcensus := census_allocated r cls state
  have hlength : (r.allocated cls state).census.length = r.census.length := by
    simp [census, allocated, modifyClass]
  constructor
  case handles =>
    rw [hcreations, List.map_append, h.handles]
    simp [List.range_succ]
  case asked =>
    refine h.asked_append ?_
    rintro cls' state' i heq
    cases heq
    rfl
  case slots =>
    intro k slot hslot
    rw [hcreations]
    rw [slots_allocated, Array.getElem?_push] at hslot
    split at hslot
    · next hk =>
      cases hslot
      exact ⟨state, by simp [hk, hcount], rfl⟩
    · obtain ⟨first, hfirst, hsort⟩ := h.slots k slot hslot
      have hlt : k < (creations events).length := (List.getElem?_eq_some_iff.1 hfirst).1
      exact ⟨first, by rw [List.getElem?_append_left hlt, hfirst], hsort⟩
  case states =>
    intro k slot hslot
    rw [slots_allocated, Array.getElem?_push] at hslot
    split at hslot
    · next hk =>
      cases hslot
      simp [statesGiven_append, Event.given?, hk]
    · next hk =>
      have hother : e.given? k = none := by simp [e, Event.given?, Ne.symm hk]
      rw [statesGiven_append_of_none events hother]
      exact h.states k slot hslot
  case counts =>
    intro id name count hid
    rw [hcensus] at hid
    cases hold : r.census[id]? with
    | none =>
      rw [hold] at hid
      cases hid
    | some old =>
      rw [hold] at hid
      cases hid
      rw [hcreations, List.countP_append, ← h.counts id old.1 old.2 hold]
      by_cases heq : id = cls
      · simp [heq]
      · simp [heq, Ne.symm heq]
  case defined =>
    intro x hx
    rw [hlength]
    rw [hcreations, List.mem_append, List.mem_singleton] at hx
    rcases hx with hx | rfl
    · exact h.defined x hx
    · simpa [census] using hcls
  case names =>
    rw [← classNames_eq]
    have hnames : (r.allocated cls state).classNames = r.classNames :=
      classNames_modifyClass r cls fun _ => rfl
    rw [hnames, classNames_eq]
    exact h.names

theorem Accounts.written {old : InstanceState} (h : Accounts events r)
    (hfound : r.lookup i = .ok old) (hsort : old.sort = state.sort) :
    Accounts (events ++ [⟨.write i state, some .done⟩]) (r.update i state) := by
  let e : Event := ⟨.write i state, some .done⟩
  have hcreations : creations (events ++ [e]) = creations events :=
    (creations_append events e).trans (List.append_nil _)
  rw [lookup_eq_ok] at hfound
  have hslots : ∀ k, (r.update i state).slots[k]? =
      if i.handle = k then some ⟨i.cls, state⟩ else r.slots[k]? := by
    intro k
    have hlt := (Array.getElem?_eq_some_iff.1 hfound).1
    rw [update, Array.getElem?_setIfInBounds]
    by_cases hk : i.handle = k
    · subst hk
      simp [hlt]
    · simp [hk]
  constructor
  case handles =>
    rw [hcreations, h.handles]
    simp [update]
  case asked =>
    refine h.asked_append ?_
    rintro cls' state' i' heq
    cases heq
  case slots =>
    intro k slot hslot
    rw [hcreations]
    rw [hslots] at hslot
    split at hslot
    · next hk =>
      cases hslot
      obtain ⟨first, hfirst, hfirstSort⟩ := h.slots i.handle _ hfound
      exact ⟨first, hk ▸ hfirst, hfirstSort.trans hsort⟩
    · exact h.slots k slot hslot
  case states =>
    intro k slot hslot
    rw [hslots] at hslot
    split at hslot
    · next hk =>
      cases hslot
      simp [statesGiven_append, Event.given?, hk]
    · next hk =>
      have hother : e.given? k = none := by simp [e, Event.given?, hk]
      rw [statesGiven_append_of_none events hother]
      exact h.states k slot hslot
  case counts =>
    intro id name count hid
    rw [hcreations]
    exact h.counts id name count hid
  case defined =>
    rw [hcreations]
    exact h.defined
  case names => exact h.names

/-- One more event is taken into account. -/
theorem Accounts.step (h : Accounts events r) (heffect : Effect c r answer r') :
    Accounts (events ++ [⟨c, answer⟩]) r' := by
  cases heffect with
  | failed =>
    exact h.quiet (by cases c <;> rfl) (fun _ => by cases c <;> rfl) rfl (.inl rfl)
  | defined hfree hcensus hslots =>
    exact h.quiet rfl (fun _ => rfl) hslots (.inr ⟨_, hfree, hcensus⟩)
  | appended hcensus hslots => exact h.quiet rfl (fun _ => rfl) hslots (.inl hcensus)
  | trapped hcensus hslots => exact h.quiet rfl (fun _ => rfl) hslots (.inl hcensus)
  | created hcls => exact h.created hcls _
  | found => exact h.quiet rfl (fun _ => rfl) rfl (.inl rfl)
  | written hfound hsort => exact h.written hfound hsort

/-- Whatever is called, the events are taken into account. -/
theorem Accounts.attemptAll : ∀ (calls : List Call) {events : List Event} {w : World},
    Accounts events w.registry →
      Accounts (events ++ (attemptAll calls w).1) (attemptAll calls w).2.registry
  | [], events, w, h => by
    rw [Registry.attemptAll, List.append_nil]
    exact h
  | c :: rest, events, w, h => by
    have hnext := attemptAll rest (h.step (c.attempt_effect w))
    rw [List.append_assoc] at hnext
    exact hnext

/-! ## The history -/

theorem Accounts.found (h : Accounts events r) {sort : StateSort} :
    (∃ state, r.lookup i = .ok state ∧ state.sort = sort) ↔
      ∃ state, (i, state) ∈ creations events ∧ state.sort = sort := by
  constructor
  · rintro ⟨state, hfound, rfl⟩
    obtain ⟨first, hfirst, hsort⟩ := h.slots _ _ (lookup_eq_ok.1 hfound)
    exact ⟨first, List.mem_of_getElem? hfirst, hsort⟩
  · rintro ⟨first, hmem, rfl⟩
    obtain ⟨k, hk⟩ := List.mem_iff_getElem?.1 hmem
    have hlt : k < r.slots.size := by
      rw [← length_creations h]
      exact (List.getElem?_eq_some_iff.1 hk).1
    -- the number of the instance is its place among those that were made
    have hhandle : i.handle = k := by
      have hnumber := congrArg (fun l => l[k]?) h.handles
      simpa [hk, hlt] using hnumber
    obtain ⟨state, hstate, hsort⟩ := h.slots k _ (Array.getElem?_eq_getElem hlt)
    rw [hk] at hstate
    cases hstate
    refine ⟨r.slots[k].state, ?_, hsort.symm⟩
    rw [lookup_eq_ok]
    exact Array.getElem?_eq_getElem hlt

/-- After any calls on an empty registry: instances are numbered in the order in which they were
made, each is of the class that was asked for it, a class counts its instances, the names of
classes differ, a state is found as one of a sort exactly where an instance of the class was made
with a state of that sort, and it is what the instance was given last; and any further call that
fails leaves the registry as it is. -/
theorem history (calls : List Call) (w : World) (root : Nat) :
    let events := (attemptAll calls { w with registry := empty root }).1
    let w' := (attemptAll calls { w with registry := empty root }).2
    (creations events).map (fun x => x.1.handle) = List.range (creations events).length ∧
      (∀ cls state i, ⟨.create cls state, some (.made i)⟩ ∈ events → i.cls = cls) ∧
      (∀ (id : Nat) (c : Class), w'.registry.classes[id]? = some c →
        c.objectCount = (creations events).countP fun x => x.1.cls = id) ∧
      w'.registry.classNames.Nodup ∧
      (∀ sort i, (∃ state, (Run.lookupAs sort i).run w' = .ok state w') ↔
        ∃ state, (i, state) ∈ creations events ∧ state.sort = sort) ∧
      (∀ sort i state, (Run.lookupAs sort i).run w' = .ok state w' →
        (statesGiven i.handle events).getLast? = some state) ∧
      ∀ (c : Call) (e : Script.Halt) (w'' : World), c.perform.run w' = .error e w'' →
        w''.registry = w'.registry := by
  intro events w'
  have hempty : Accounts [] ({ w with registry := empty root } : World).registry :=
    accounts_empty root
  have h : Accounts events w'.registry := Accounts.attemptAll calls hempty
  refine ⟨?_, h.asked, ?_, ?_, ?_, ?_, fun c e w'' => (c.perform_ends w').error e w''⟩
  · rw [length_creations h]
    exact h.handles
  · intro id c hc
    exact h.counts id c.name c.objectCount (by simp [census, hc])
  · rw [classNames_eq]
    exact h.names
  · intro sort i
    simp only [Script.run_lookupAs_eq_ok]
    exact h.found
  · intro sort i state hrun
    obtain ⟨hfound, -⟩ := Script.run_lookupAs_eq_ok.1 hrun
    exact h.states _ _ (lookup_eq_ok.1 hfound)

end

end Registry

end ClusterScript
