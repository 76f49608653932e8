import ClusterScript.Proofs.Script.Installed
import ClusterScript.Script.Evaluation

/-!
# Keys and their members

What a script reaches on a collector or on a key, where the classes are
intact: a method of the class by its name, and a key by any other name. New
keys go into the registry; nothing that was there changes, and no match is
reported by reaching for a key.

* `World.Unreported`: everything is found again and no match was reported.
* `World.IsKey`: an instance is a key with a path and a sink.
* `indexKey_gives`, `indexCollector_gives`: a step from a key or a collector.
-/
namespace ClusterScript.Script

open Selector (Kind)

/-- All that was there is still there, and no list of expressions has changed. -/
structure World.Unreported (w w' : World) : Prop where
  ext : w.Extends (fun _ => True) w'
  recordings : w'.registry.recordings = w.registry.recordings

namespace World.Unreported

variable {w w₁ w' : World}

theorem refl (w : World) : w.Unreported w := ⟨.refl w, rfl⟩

theorem trans (h : w.Unreported w₁) (h' : w₁.Unreported w') : w.Unreported w' :=
  ⟨h.ext.trans h'.ext, h'.recordings.trans h.recordings⟩

theorem intact (h : w.Unreported w') (hw : w.Intact) : w'.Intact :=
  hw.extends h.ext.restrict

theorem allocated (w : World) (id : Nat) (state : InstanceState) :
    w.Unreported { w with registry := w.registry.allocated id state } :=
  ⟨.ofRegistry w (w.registry.allocated_extends id state), rfl⟩

end World.Unreported

/-- An instance is a key: of which kind, with which path, and where its matches go. -/
structure World.IsKey (w : World) (i : Instance) (kind : Kind) (path : List String)
    (sink : Sink) : Prop where
  cls : w.Offers (keyClass kind) (.path kind) (Selectors.keyMethods kind) i.cls
  state : w.registry.lookup i = .ok (.key path sink)

/-- An instance is a collector of a kind that reports to a list; it has a label key for each
well-known name, and no other key. -/
structure World.IsCollector (w : World) (i : Instance) (kind : Kind) (list : Nat) : Prop where
  cls : w.Offers (collectorClass kind) .key (Selectors.collectorMethods kind) i.cls
  state : ∃ known, w.registry.lookup i = .ok (.collector kind list known) ∧
    (∀ name ∈ wellKnownKeys, ∃ key, known.lookup name = some key ∧
      w.IsKey key .label [name] (Selectors.sinkFor kind .label list)) ∧
    ∀ name, name ∉ wellKnownKeys → known.lookup name = none

section

variable {w w' : World} {i : Instance} {kind : Kind}

theorem World.IsKey.extends {path : List String} {sink : Sink} (h : w.IsKey i kind path sink)
    (hw : w.Extends (fun _ => True) w') : w'.IsKey i kind path sink :=
  ⟨h.cls.extends hw.restrict, hw.registry.lookup h.state⟩

theorem World.IsCollector.extends {list : Nat} (h : w.IsCollector i kind list)
    (hw : w.Extends (fun _ => True) w') : w'.IsCollector i kind list := by
  obtain ⟨known, hstate, hkey, hother⟩ := h.state
  refine ⟨h.cls.extends hw.restrict, known, hw.registry.lookup hstate, ?_, hother⟩
  intro name hname
  obtain ⟨key, hlookup, hkey⟩ := hkey name hname
  exact ⟨key, hlookup, hkey.extends hw⟩

end

section

variable {w : World} {name : String} {trap : Trap} {methods : List Method} {i : Instance}
variable {call : Caller} {handler : TrapHandler} {kind : Kind} {path : List String} {sink : Sink}

open Run

/-! ## Members -/

/-- The names that a class with some methods answers to. -/
def memberNames (methods : List Method) : List String :=
  methods.map (·.name) ++ ["object_count"]

theorem run_classMember {c : Class} {t : Table} {cls : Nat}
    (hc : w.registry.classes[cls]? = some c) (ht : w.tables[c.table]? = some t) :
    (classMember cls name).run w = (match t.get (.text name) with
      | .nil => pure none
      | v => if v.isFunction then pure (some v)
        else fault (.coercion (.notFunction v.typeName)) : Run (Option Value)).run w := by
  have hcls : (lift (w.registry.cls cls)).run w = .ok c w := by
    simp only [Registry.cls, hc]
    rfl
  have hgetIn : (getIn c.table (.text name)).run w = .ok (t.get (.text name)) w := by
    have : (getIn c.table (.text name)).run w =
        .ok ((w.tables[c.table]?.getD .empty).get (.text name)) w := rfl
    rw [this, ht, Option.getD_some]
  refine (run_bind_of_ok run_registry).trans ((run_bind_of_ok hcls).trans ?_)
  refine (run_bind_of_ok hgetIn).trans ?_
  cases t.get (.text name) <;> rfl

/-- A method of the class is found as a function. -/
theorem run_classMember_method {m : Method} (h : w.Shows name methods i.cls)
    (hm : m ∈ methods) : ∃ k b, w.registry.bound[k]? = some b ∧ b.cls = i.cls ∧ b.method = m ∧
      (classMember i.cls m.name).run w = .ok (some (.host (.method k))) w := by
  obtain ⟨c, hc, -, t, ht, hmember, -⟩ := h.table
  obtain ⟨k, b, hget, hbound, hcls, hmethod⟩ := hmember m (by simp [hm])
  refine ⟨k, b, hbound, hcls, hmethod, ?_⟩
  rw [run_classMember hc ht, hget]
  rfl

/-- Another name is not found. -/
theorem run_classMember_absent {member : String} (h : w.Offers name trap methods i.cls)
    (hmember : member ∉ memberNames methods) :
    (classMember i.cls member).run w = .ok none w := by
  obtain ⟨c, hc, -, -, t, ht, -, habsent⟩ := h.table
  have hget : t.get (.text member) = .nil := by
    refine habsent member ?_
    rw [List.map_append]
    exact hmember
  rw [run_classMember hc ht, hget]
  rfl

theorem run_index_method {m : Method} (h : w.Shows name methods i.cls)
    (hm : m ∈ methods) : ∃ k b, w.registry.bound[k]? = some b ∧ b.cls = i.cls ∧ b.method = m ∧
      (index call handler (.instance i) (.text m.name)).run w = .ok (.host (.method k)) w := by
  obtain ⟨k, b, hbound, hcls, hmethod, hrun⟩ := run_classMember_method h hm
  refine ⟨k, b, hbound, hcls, hmethod, ?_⟩
  have htext : (lift (Value.text m.name).hostText).run w = .ok (some m.name) w := rfl
  rw [index, indexInstance, run_bind_of_ok htext]
  exact run_bind_of_ok hrun

/-- A name that the class does not have goes to its trap. -/
theorem run_index_trap {member : String} (h : w.Offers name trap methods i.cls)
    (hmember : member ∉ memberNames methods) :
    (index call handler (.instance i) (.text member)).run w = (handler trap i member).run w := by
  obtain ⟨c, hc, htrap, -⟩ := h.table
  have htext : (lift (Value.text member).hostText).run w = .ok (some member) w := rfl
  rw [index, indexInstance, run_bind_of_ok htext]
  refine (run_bind_of_ok (run_classMember_absent h hmember)).trans ?_
  refine (run_bind_of_ok run_registry).trans ?_
  rw [hc]
  simp only [Option.bind_some, htrap]

/-! ## Making keys -/

theorem newInstanceOf_gives {id : Nat} (hid : w.registry.classId? name = some id)
    (state : InstanceState) :
    (newInstanceOf name state).Gives w (fun i w' => i.cls = id ∧ w.Unreported w' ∧
      w'.registry.lookup i = .ok state) :=
  .of_ok (run_newInstanceOf hid state)
    ⟨rfl, .allocated w id state, Registry.lookup_allocated⟩

theorem newKeyInstance_gives (hw : w.Intact) (kind : Kind) (path : List String) (sink : Sink) :
    (newInstanceOf (keyClass kind) (.key path sink)).Gives w
      (fun i w' => w.Unreported w' ∧ w'.IsKey i kind path sink) := by
  obtain ⟨cls, hoffers⟩ := hw.key kind
  refine (newInstanceOf_gives hoffers.id _).weaken fun i w' h => ⟨h.2.1, ?_, h.2.2⟩
  rw [h.1]
  exact hoffers.extends h.2.1.ext.restrict

/-- A value is a key that was made without reporting a match. -/
def World.MakesKey (w : World) (kind : Kind) (path : List String) (sink : Sink) (v : Value)
    (w' : World) : Prop :=
  w.Unreported w' ∧ ∃ i, v = .instance i ∧ w'.IsKey i kind path sink

theorem newKey_gives (hw : w.Intact) (kind : Kind) (path : List String) (sink : Sink) :
    (Selectors.newKey kind path sink).Gives w (w.MakesKey kind path sink) :=
  .bind (newKeyInstance_gives hw kind path sink) fun i _ h => .pure ⟨h.1, i, rfl, h.2⟩

/-- Where the matches of a longer path go: those of a label key nowhere. -/
def extendedSink : Kind → Sink → Sink
  | .field, sink => sink
  | .label, _ => .discard

/-- A member of a key that is no method is a key with a longer path. -/
theorem indexKey_gives (hw : w.Intact) (hkey : w.IsKey i kind path sink)
    (hmember : name ∉ memberNames (Selectors.keyMethods kind)) :
    (index call trapped (.instance i) (.text name)).Gives w
      (w.MakesKey kind (path ++ [name]) (extendedSink kind sink)) := by
  have hrun : (index call trapped (.instance i) (.text name)).run w =
      (Selectors.newKey kind (path ++ [name]) (extendedSink kind sink)).run w := by
    rw [run_index_trap hkey.cls hmember]
    refine (run_bind_of_ok (run_lookup hkey.state)).trans ?_
    cases kind <;> rfl
  exact (newKey_gives hw kind (path ++ [name]) (extendedSink kind sink)).of_run_eq hrun

/-! ## Keys of a collector -/

/-- A well-known name is a key that the collector was made with. -/
theorem indexKnown_gives {list : Nat} (hi : w.IsCollector i kind list)
    (hname : name ∈ wellKnownKeys) :
    (index call trapped (.instance i) (.text name)).Gives w
      (w.MakesKey .label [name] (Selectors.sinkFor kind .label list)) := by
  obtain ⟨known, hstate, hknown, -⟩ := hi.state
  obtain ⟨key, hlookup, hkey⟩ := hknown name hname
  have hmember : name ∉ memberNames (Selectors.collectorMethods kind) := by
    have : ∀ n ∈ wellKnownKeys, n ∉ ["label", "field", "to_s", "new", "object_count"] := by decide
    exact this name hname
  refine .of_ok ((run_index_trap hi.cls hmember).trans ?_) ⟨.refl w, key, rfl, hkey⟩
  refine (run_bind_of_ok (run_lookup hstate)).trans ?_
  simp only [hlookup]
  rfl

/-- Any other name that is no method is a new key, of the kind of the collector. -/
theorem indexOther_gives {list : Nat} (hw : w.Intact) (hi : w.IsCollector i kind list)
    (hname : name ∉ wellKnownKeys)
    (hmember : name ∉ memberNames (Selectors.collectorMethods kind)) :
    (index call trapped (.instance i) (.text name)).Gives w
      (w.MakesKey kind [name] (.record list)) := by
  obtain ⟨known, hstate, -, hother⟩ := hi.state
  have hrun : (index call trapped (.instance i) (.text name)).run w =
      (Selectors.newKey kind [name] (.record list)).run w := by
    rw [run_index_trap hi.cls hmember]
    refine (run_bind_of_ok (run_lookup hstate)).trans ?_
    simp only [hother name hname]
  exact (newKey_gives hw kind [name] (.record list)).of_run_eq hrun

/-- The methods of a collector make a key of the kind that they are named for. -/
theorem makeKey_gives {list : Nat} (hw : w.Intact) (hi : w.IsCollector i kind list)
    (hname : Text.blank name = false) (wanted : Kind) :
    (Selectors.makeKey i wanted [.text name]).Gives w
      (w.MakesKey wanted (Text.splitOn '.' name) (Selectors.sinkFor kind wanted list)) := by
  obtain ⟨known, hstate, -⟩ := hi.state
  have hrun : (Selectors.makeKey i wanted [.text name]).run w =
      (Selectors.newKey wanted (Text.splitOn '.' name)
        (Selectors.sinkFor kind wanted list)).run w := by
    have hargument : (Selectors.nameArgument [.text name]).run w = .ok (some name) w := rfl
    refine (run_bind_of_ok (run_lookup hstate)).trans ?_
    refine (run_bind_of_ok hargument).trans ?_
    simp only [hname]
    rfl
  exact (newKey_gives hw _ _ _).of_run_eq hrun

/-! ## Calls of methods -/

/-- A method that is called on an instance of its class runs its body there. -/
theorem run_callAt_method [Library] {k depth : Nat} {b : BoundMethod} {args : List Value}
    (hbound : w.registry.bound[k]? = some b) (hcls : b.cls = i.cls)
    (hkind : b.method.body.kind = .ofInstance) (harity : b.method.arity.Admits args.length) :
    (callAt (depth + 1) (.host (.method k)) (.instance i :: args)).run w =
      (performOn (callAt depth) i b.method.body args).run w := by
  refine (run_bind_of_ok run_registry).trans ?_
  simp only [hbound]
  have hreceiver : b.receiver? (.instance i :: args) = some (i, args) := by
    simp [BoundMethod.receiver?, hcls]
  have hchecked : (liftRefusal (b.checkArity args.length)).run w = .ok () w := by
    rw [BoundMethod.checkArity, if_pos harity]
    rfl
  rw [callMethod, hkind]
  simp only [hreceiver]
  exact run_bind_of_ok hchecked

end

end ClusterScript.Script
