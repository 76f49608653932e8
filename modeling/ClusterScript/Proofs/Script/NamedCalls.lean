import ClusterScript.Proofs.Script.Snapshots

/-!
# Calling methods by their names

A script reaches a method through the table of the class. Where the table
has the method at its name, calling it by this name runs its body on the
instance. The classes of a session have their methods in their tables from
the start, and keep them for as long as no script assigns to these tables.

* `World.Answers`: a class has a method at its name.
* `send`: a method of an instance, called by name.
* `run_send`: it runs the body of the method.
* `Moment.Unassigned`, `Moment.answers`: what a class had at the start of a
  session is there as long as its table is as it was.
-/
namespace ClusterScript.Script

/-- What the table of a class has at a name. -/
def World.memberAt? (w : World) (cls : Nat) (name : String) : Option Value :=
  w.registry.classes[cls]?.bind fun c => w.tables[c.table]?.map (·.get (.text name))

/-- The method that the table of a class has at a name. -/
def World.methodAt? (w : World) (cls : Nat) (name : String) : Option BoundMethod :=
  match w.memberAt? cls name with
  | some (.host (.method k)) => w.registry.bound[k]?
  | _ => none

/-- A class has a method at its name. -/
def World.Answers (w : World) (cls : Nat) (m : Method) : Prop :=
  (w.methodAt? cls m.name).map (fun b => (b.cls, b.method)) = some (cls, m)

instance (w : World) (cls : Nat) (m : Method) : Decidable (w.Answers cls m) :=
  inferInstanceAs (Decidable (_ = _))

/-- A method of an instance, called by its name as scripts do. -/
def send (call : Caller) (i : Instance) (name : String) (args : List Value) :
    Run (List Value) := do
  let f ← index call trapped (.instance i) (.text name)
  call f (.instance i :: args)

section

variable {w w' : World} {i : Instance} {cls : Nat} {m : Method} {call : Caller} {f : Value}
variable {args : List Value} {e : Fault}

open Run

/-! ## Finding -/

/-- The method is found as a function. -/
theorem run_classMember_answers (h : w.Answers i.cls m) :
    ∃ k b, w.registry.bound[k]? = some b ∧ b.cls = i.cls ∧ b.method = m ∧
      (classMember i.cls m.name).run w = .ok (some (.host (.method k))) w := by
  obtain ⟨b, hb, hsame⟩ := Option.map_eq_some_iff.1 h
  obtain ⟨hcls, hmethod⟩ := Prod.mk.inj hsame
  unfold World.methodAt? at hb
  split at hb
  · next k hmember =>
    obtain ⟨c, hc, hmember⟩ := Option.bind_eq_some_iff.1 hmember
    obtain ⟨t, ht, hget⟩ := Option.map_eq_some_iff.1 hmember
    refine ⟨k, b, hb, hcls, hmethod, ?_⟩
    rw [run_classMember hc ht, hget]
    rfl
  · cases hb

/-- A class has a method where its table and the methods are what they were. -/
theorem World.Answers.of_class {c c' : Class} (h : w.Answers cls m)
    (hc : w.registry.classes[cls]? = some c) (hc' : w'.registry.classes[cls]? = some c')
    (htable : w'.tables[c'.table]? = w.tables[c.table]?)
    (hbound : ∀ (k : Nat) (b : BoundMethod), w.registry.bound[k]? = some b →
      w'.registry.bound[k]? = some b) : w'.Answers cls m := by
  have hmember : w'.memberAt? cls m.name = w.memberAt? cls m.name := by
    rw [World.memberAt?, World.memberAt?, hc, hc', Option.bind_some, Option.bind_some, htable]
  obtain ⟨b, hb, hsame⟩ := Option.map_eq_some_iff.1 h
  rw [World.Answers, ← hsame]
  refine Option.map_eq_some_iff.2 ⟨b, ?_, rfl⟩
  rw [World.methodAt?, hmember]
  unfold World.methodAt? at hb
  split at hb
  · next k hfound => exact hbound k b hb
  · cases hb

theorem World.Answers.exists_class (h : w.Answers cls m) :
    ∃ c t, w.registry.classes[cls]? = some c ∧ w.tables[c.table]? = some t := by
  obtain ⟨b, hb, -⟩ := Option.map_eq_some_iff.1 h
  unfold World.methodAt? at hb
  split at hb
  · next k hmember =>
    obtain ⟨c, hc, hmember⟩ := Option.bind_eq_some_iff.1 hmember
    obtain ⟨t, ht, -⟩ := Option.map_eq_some_iff.1 hmember
    exact ⟨c, t, hc, ht⟩
  · cases hb

/-- A class keeps a method while the registry is carried on and the table stays. -/
theorem World.Answers.carries (h : w.Answers cls m) (hw : w.registry.Carries w'.registry)
    (htable : ∀ c, w'.registry.classes[cls]? = some c → w'.tables[c.table]? = w.tables[c.table]?) :
    w'.Answers cls m := by
  obtain ⟨c, t, hc, -⟩ := h.exists_class
  obtain ⟨c', hc', -, hsame, -⟩ := hw.classes hc
  exact h.of_class hc hc' (by rw [htable c' hc', hsame]) fun k b hb => by rwa [hw.bound]

/-- A class keeps a method where nothing was changed. -/
theorem World.Answers.extends (h : w.Answers cls m) (hw : w.Extends (fun _ => True) w') :
    w'.Answers cls m := by
  obtain ⟨c, t, hc, ht⟩ := h.exists_class
  obtain ⟨c', hc', hsame, -⟩ := hw.registry.classes cls c hc
  refine h.of_class hc hc' ?_ hw.registry.bound
  rw [hsame, ht]
  exact hw.tables _ t trivial ht

/-! ## Calling -/

/-- Calling for the host passes on what the host itself refuses. -/
theorem callFromHost_declines (h : (call f args).Declines w e) :
    (callFromHost call f args).Declines w e := by
  unfold Declines at *
  show EStateM.tryCatch (call f args) _ w = _
  unfold EStateM.tryCatch
  rw [show call f args w = .error (.raised (.fault e)) w from h]
  rfl

/-- A method is found as a function under its name. -/
theorem run_index_answers (h : w.Answers i.cls m) :
    ∃ k b, w.registry.bound[k]? = some b ∧ b.cls = i.cls ∧ b.method = m ∧
      ∀ call, (index call trapped (.instance i) (.text m.name)).run w =
        .ok (.host (.method k)) w := by
  obtain ⟨k, b, hbound, hcls, rfl, hmember⟩ := run_classMember_answers h
  refine ⟨k, b, hbound, hcls, rfl, fun call => ?_⟩
  have htext : (lift (Value.text b.method.name).hostText).run w = .ok (some b.method.name) w := rfl
  rw [index, indexInstance, run_bind_of_ok htext]
  exact run_bind_of_ok hmember

/-- A method that is called by its name runs its body on the instance. -/
theorem run_send [Library] (h : w.Answers i.cls m) (hkind : m.body.kind = .ofInstance)
    (args : List Value) (harity : m.arity.Admits args.length) (depth : Nat) :
    (send (callAt (depth + 1)) i m.name args).run w =
      (performOn (callAt depth) i m.body args).run w := by
  obtain ⟨k, b, hbound, hcls, rfl, hindex⟩ := run_index_answers h
  rw [send, run_bind_of_ok (hindex _)]
  exact run_callAt_method hbound hcls hkind harity

/-- A method that is found as a function runs its body on the instance for the host too. -/
theorem run_fromHost [Library] {k : Nat} {b : BoundMethod} (hbound : w.registry.bound[k]? = some b)
    (hcls : b.cls = i.cls) (hkind : b.method.body.kind = .ofInstance) (args : List Value)
    (harity : b.method.arity.Admits args.length) (depth : Nat) :
    (∀ values w', (performOn (callAt depth) i b.method.body args).run w = .ok values w' →
      (callFromHost (callAt (depth + 1)) (.host (.method k)) (.instance i :: args)).run w =
        .ok values w') ∧
    ∀ e, (performOn (callAt depth) i b.method.body args).Declines w e →
      (callFromHost (callAt (depth + 1)) (.host (.method k)) (.instance i :: args)).Declines w
        e := by
  have hcall : (callAt (depth + 1) (.host (.method k)) (.instance i :: args)).run w =
      (performOn (callAt depth) i b.method.body args).run w :=
    run_callAt_method hbound hcls hkind harity
  exact ⟨fun values w' h => run_callFromHost (hcall.trans h),
    fun e h => callFromHost_declines (hcall.trans h)⟩

/-- A position of an instance is asked of its method `[]`. -/
theorem run_index_position [Library] {key : Value} {arity : Arity} {body : Body}
    (h : w.Answers i.cls ⟨"[]", arity, body⟩) (hkind : body.kind = .ofInstance)
    (harity : arity.Admits 1) (hkey : (∃ n, key = .int n) ∨ ∃ x, key = .float x) (depth : Nat) :
    (∀ values w', (performOn (callAt depth) i body [key]).run w = .ok values w' →
      (index (callAt (depth + 1)) trapped (.instance i) key).run w = .ok (firstOf values) w') ∧
    ∀ e, (performOn (callAt depth) i body [key]).Declines w e →
      (index (callAt (depth + 1)) trapped (.instance i) key).Declines w e := by
  obtain ⟨k, b, hbound, hcls, hmethod, hmember⟩ := run_classMember_answers h
  obtain ⟨hok, hfails⟩ := run_fromHost hbound hcls (by rw [hmethod]; exact hkind) [key]
    (by rw [hmethod]; exact harity) depth
  rw [hmethod] at hok hfails
  have hindex : (index (callAt (depth + 1)) trapped (.instance i) key).run w =
      (callFromHost (callAt (depth + 1)) (.host (.method k)) [.instance i, key] >>= fun values =>
        pure (firstOf values)).run w := by
    rcases hkey with ⟨n, rfl⟩ | ⟨x, rfl⟩
    · exact run_bind_of_ok hmember
    · exact run_bind_of_ok hmember
  constructor
  · intro values w' hrun
    rw [hindex, run_bind_of_ok (hok values w' hrun)]
    rfl
  · intro e hrun
    exact hindex.trans (Declines.bind (hfails e hrun))

/-- The length of an instance is asked of its method `count`. -/
theorem run_length [Library] {arity : Arity} {body : Body} {v : Value}
    (h : w.Answers i.cls ⟨"count", arity, body⟩) (hkind : body.kind = .ofInstance)
    (harity : arity.Admits 0) (depth : Nat)
    (hrun : (performOn (callAt depth) i body []).run w = .ok [v] w') :
    (length (callAt (depth + 1)) (.instance i)).run w = .ok v w' := by
  obtain ⟨k, b, hbound, hcls, hmethod, hmember⟩ := run_classMember_answers h
  have hasked := (run_fromHost hbound hcls (by rw [hmethod]; exact hkind) []
    (by rw [hmethod]; exact harity) depth).1 [v] w' (by rw [hmethod]; exact hrun)
  rw [length, run_bind_of_ok hmember, run_bind_of_ok hasked]
  rfl

end

/-! ## Sessions -/

/-- Whether the class of a name has a method at its name. -/
def World.Provides (w : World) (name : String) (m : Method) : Prop :=
  (w.registry.classId? name).any (fun cls => w.Answers cls m) = true

instance (w : World) (name : String) (m : Method) : Decidable (w.Provides name m) :=
  inferInstanceAs (Decidable (_ = true))

theorem World.Provides.answers {w : World} {name : String} {m : Method} {cls : Nat}
    (h : w.Provides name m) (hcls : w.registry.classId? name = some cls) : w.Answers cls m := by
  rw [World.Provides, hcls] at h
  exact of_decide_eq_true h

theorem World.Provides.exists_class {w : World} {name : String} {m : Method}
    (h : w.Provides name m) : ∃ cls, w.registry.classId? name = some cls := by
  cases hcls : w.registry.classId? name with
  | some cls => exact ⟨cls, rfl⟩
  | none =>
    rw [World.Provides, hcls] at h
    cases h

theorem World.Provides.onHost {w : World} {name : String} {m : Method} (h : w.Provides name m)
    (host : Option Host) : World.Provides { w with host := host } name m := h

namespace Moment

variable {host : Host}

/-- No script has changed the table of a class: it is as it was when the session began. -/
def Unassigned [Library] (m : Moment host) (name : String) : Prop :=
  ∀ cls c, m.world.registry.classId? name = some cls → m.world.registry.classes[cls]? = some c →
    m.world.tables[c.table]? = (Engine.installed host).tables[c.table]?

/-- What a class has at the start of some session, it has at the start of any. -/
theorem provides (host : Host) {name : String} {method : Method}
    (h : (Engine.installed default).Provides name method) :
    (Engine.installed host).Provides name method := by
  rw [installed_eq host default]
  exact h.onHost (some host)

theorem exists_class [Library] (m : Moment host) {name : String} {method : Method}
    (h : (Engine.installed default).Provides name method) :
    ∃ cls, m.world.registry.classId? name = some cls := by
  obtain ⟨cls, hcls⟩ := (provides host h).exists_class
  exact ⟨cls, by rw [m.carries.classId?, hcls]⟩

/-- While its table is as it was, a class has the methods that it started with. -/
theorem answers [Library] (m : Moment host) {name : String} {method : Method} {cls : Nat}
    (hmethod : (Engine.installed default).Provides name method)
    (hcls : m.world.registry.classId? name = some cls) (hown : m.Unassigned name) :
    m.world.Answers cls method :=
  ((provides host hmethod).answers ((m.carries.classId? name).symm.trans hcls)).carries m.carries
    fun c hc => hown cls c hcls hc

end Moment

end ClusterScript.Script
