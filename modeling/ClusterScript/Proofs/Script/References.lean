import ClusterScript.Proofs.Script.Addresses
import ClusterScript.Proofs.Script.SettingUp

/-!
# References that were never handed out

An instance is referred to by its class and its number, and any such pair may
turn up where an instance is wanted. It finds an instance exactly if a deed
has handed it out. Otherwise a method that is called on it fails, for what is
wrong with the arguments or because there is no such instance, and nothing is
done.

* `Deed.issued`: the references that a deed hands out.
* `Moment.found_iff`: the references that find an instance.
* `BoundMethod.check`: what is wrong with arguments, whatever the receiver is.
* `performOn_refused`, `performOn_absent`: methods that fail before they do
  anything.
* `only_issued_references_reach`: references at every moment of a session.
-/
namespace ClusterScript

open Script (Value Lists.indexOf Logs.patterns)

/-! ## What is wrong with arguments -/

/-- What a body looks at before it looks for its receiver. -/
def Body.check [Library] : Body → List Value → Except Fault Unit
  | .list _ .at, v :: _ => do
    let _ ← (Lists.indexOf v).mapError Fault.refused
  | .list _ .at, [] => .error (.refused (.indexType "nothing"))
  | .logs .grep, [] => .error (.refused .noPattern)
  | .logs .grep, args => do
    let _ ← Logs.patterns args
  | _, _ => .ok ()

/-- What is wrong with the arguments of a method, whatever its receiver is. -/
def BoundMethod.check [Library] (m : BoundMethod) (args : List Value) : Except Fault Unit := do
  (m.checkArity args.length).mapError Fault.refused
  m.method.body.check args

/-- Bodies of tallies, which no session has. -/
def Body.isTally : Body → Bool
  | .tally _ _ => true
  | _ => false

namespace Script

/-! ## What is handed out -/

/-- The references that a deed hands out. -/
def Deed.issued : Deed → List Instance
  | .opened _ collector known => collector :: known.map Prod.snd
  | .reached _ key | .named _ _ key | .extended _ key | .detached key => [key]
  | .closed _ selector => [selector]
  | .made i _ => [i]
  | .own | .matched _ _ | .changed _ _ | .asked _ | .moved _ => []

/-- A reference finds an instance. -/
def World.Finds (w : World) (i : Instance) : Prop := ∃ state, w.registry.lookup i = .ok state

section

variable {w w' : World} {d : Deed} {deeds : List Deed} {i j : Instance}

theorem World.Adds.finds {name : String} {state : InstanceState} (h : w.Adds name state j w') :
    w'.Finds i ↔ i = j ∨ w.Finds i := by
  simp only [World.Finds, h.lookup, exists_or, exists_and_left, exists_eq, and_true]
  exact or_comm

theorem World.Opens.finds {kind : Selector.Kind} {list : Nat} {known : List (String × Instance)}
    (h : w.Opens kind j list known w') :
    w'.Finds i ↔ i ∈ j :: known.map Prod.snd ∨ w.Finds i := by
  constructor
  · rintro ⟨state, hi⟩
    rcases (h.lookup i state).1 hi with hold | ⟨name, hmem, -⟩ | ⟨rfl, -⟩
    · exact .inr ⟨state, hold⟩
    · exact .inl (List.mem_cons_of_mem j (List.mem_map_of_mem hmem))
    · exact .inl List.mem_cons_self
  · rintro (hnew | ⟨state, hold⟩)
    · rcases List.mem_cons.1 hnew with rfl | hmem
      · exact ⟨_, (h.lookup _ _).2 (.inr (.inr ⟨rfl, rfl⟩))⟩
      · obtain ⟨⟨name, key⟩, hknown, rfl⟩ := List.mem_map.1 hmem
        exact ⟨_, (h.lookup _ _).2 (.inr (.inl ⟨name, hknown, rfl⟩))⟩
    · exact ⟨state, (h.lookup _ _).2 (.inl hold)⟩

/-- What a deed hands out is found from then on, and all that was found before. -/
theorem Step.finds [Library] (hw : w.Furnished) (h : Step w d w') :
    w'.Finds i ↔ i ∈ d.issued ∨ w.Finds i := by
  cases h.effect hw with
  | own hregistry _ => simp [Deed.issued, World.Finds, hregistry]
  | opened hopens => exact hopens.finds
  | reached _ hadds | named _ hadds | extended _ _ _ hadds | detached hadds | closed _ _ hadds =>
    simp only [Deed.issued, List.mem_singleton]
    exact hadds.finds
  | recorded _ | dropped _ | asked _ | moved _ => exact (or_iff_right List.not_mem_nil).symm
  | made _ _ =>
    simp only [Deed.issued, List.mem_singleton, World.Finds, Registry.lookup_allocated_iff,
      exists_or, exists_and_left, exists_eq, and_true]
    exact or_comm
  | changed hold _ =>
    simp only [Deed.issued, List.not_mem_nil, false_or, World.Finds, Registry.lookup_update hold]
    split
    · next hi =>
      subst hi
      simp [hold]
    · rfl

theorem Steps.finds [Library] (hw : w.Furnished) (h : Steps w deeds w') :
    w'.Finds i ↔ i ∈ deeds.flatMap Deed.issued ∨ w.Finds i := by
  induction h with
  | refl => simp
  | step hsteps hstep ih =>
    rw [hstep.finds (hw.carries (hsteps.carries hw)), ih, List.flatMap_cons, List.mem_append,
      or_assoc]

end

namespace Moment

variable {host : Host} {i j : Instance}

/-- What was handed out so far. -/
def issued [Library] (m : Moment host) : List Instance := m.deeds.flatMap Deed.issued

/-- **A reference finds an instance exactly if it was handed out.** -/
theorem found_iff [Library] (m : Moment host) : m.world.Finds i ↔ i ∈ m.issued := by
  have hnone : ¬ (Engine.installed host).Finds i := by
    rintro ⟨state, hi⟩
    rw [Registry.lookup_eq_ok, installed_slots] at hi
    simp at hi
  rw [m.steps.finds (installed_intact host).1.furnished, or_iff_left hnone]
  rfl

/-- No number is handed out for two classes. -/
theorem issued_unique [Library] (m : Moment host) (hi : i ∈ m.issued) (hj : j ∈ m.issued)
    (h : i.handle = j.handle) : i = j := by
  obtain ⟨state, hi⟩ := m.found_iff.2 hi
  obtain ⟨state', hj⟩ := m.found_iff.2 hj
  rw [Registry.lookup_eq_ok, h] at hi
  rw [Registry.lookup_eq_ok, hi] at hj
  cases i
  cases j
  simp_all

theorem lookup_absent [Library] (m : Moment host) (h : i ∉ m.issued) :
    m.world.registry.lookup i = .error (m.world.registry.notFound i) := by
  cases hi : m.world.registry.lookup i with
  | ok state => exact absurd (m.found_iff.1 ⟨state, hi⟩) h
  | error f =>
    unfold Registry.lookup at hi
    split at hi
    · split at hi
      · cases hi
      · exact hi.symm
    · exact hi.symm

end Moment

/-! ## Methods without their receiver -/

section

variable {w : World} {i : Instance} {b : Body} {args : List Value} {call : Caller} {f : Fault}

open Run

theorem Lists.itemAt_refused [Library] {r : Resource}
    (h : Body.check (.list r .at) args = .error f) :
    (Lists.itemAt r i args).Declines w f := by
  cases args with
  | nil =>
    cases h
    rfl
  | cons v rest =>
    refine Declines.bind ?_
    simp only [Body.check] at h
    cases hindex : Lists.indexOf v with
    | error e =>
      rw [hindex] at h
      cases h
      rfl
    | ok k =>
      rw [hindex] at h
      cases h

theorem Logs.grep_refused [Library] (h : Body.check (.logs .grep) args = .error f) :
    (Logs.grep i args).Declines w f := by
  cases args with
  | nil =>
    cases h
    rfl
  | cons v rest =>
    refine Declines.bind ?_
    simp only [Body.check] at h
    cases hpatterns : Logs.patterns (v :: rest) with
    | error e =>
      rw [hpatterns] at h
      cases h
      rfl
    | ok ps =>
      rw [hpatterns] at h
      cases h

/-- A body whose arguments are wrong fails whatever its receiver is. -/
theorem performOn_refused [Library] (h : b.check args = .error f) :
    (performOn call i b args).Declines w f := by
  cases b with
  | list r b =>
    cases b with
    | «at» => exact Lists.itemAt_refused h
    | _ => cases h
  | logs b =>
    cases b with
    | grep => exact .bind (Logs.grep_refused h)
    | _ => cases h
  | _ => cases h

theorem contents_absent (hi : w.registry.lookup i = .error f) :
    (Lists.contents i).Declines w f ∧ (Objects.objectOf i).Declines w f ∧
      (Logs.contents i).Declines w f :=
  ⟨.bind (.lookup hi), .bind (.lookup hi), .bind (.lookup hi)⟩

theorem Selectors.performOn_absent {b : SelectorBody} (hkind : (Body.selector b).kind = .ofInstance)
    (hi : w.registry.lookup i = .error f) : (Selectors.performOn i b args).Declines w f := by
  cases b with
  | newKey _ | newCollector _ | newSelector _ => cases hkind
  | compare operator => exact .bind (.bind (.lookup hi))
  | makeKey wanted => exact .bind (.bind (.lookup hi))
  | _ => exact .bind (.lookup hi)

theorem Lists.perform_absent [Library] {r : Resource} {b : ListBody}
    (h : Body.check (.list r b) args = .ok ()) (hi : w.registry.lookup i = .error f) :
    (Lists.perform call r i b args).Declines w f := by
  have hcontents := (contents_absent hi).1
  cases b with
  | refresh => exact .bind (.bind hcontents)
  | «at» =>
    cases args with
    | nil => cases h
    | cons v rest =>
      cases hindex : Lists.indexOf v with
      | error e =>
        simp only [Body.check, hindex] at h
        cases h
      | ok k =>
        have hchecked : (Run.liftRefusal (Lists.indexOf v)).run w = .ok k w := by
          rw [hindex]
          rfl
        exact .after hchecked (.bind hcontents)
  | _ => exact .bind hcontents

theorem Logs.perform_absent [Library] {b : LogBody} (h : Body.check (.logs b) args = .ok ())
    (hi : w.registry.lookup i = .error f) : (Logs.perform i b args).Declines w f := by
  have hcontents := (contents_absent hi).2.2
  cases b with
  | grep =>
    cases args with
    | nil => cases h
    | cons v rest =>
      cases hpatterns : Logs.patterns (v :: rest) with
      | error e =>
        simp only [Body.check, hpatterns] at h
        cases h
      | ok ps =>
        have hchecked : (Run.lift (Logs.patterns (v :: rest))).run w = .ok ps w := by
          rw [hpatterns]
          rfl
        exact .bind (.after hchecked (.bind hcontents))
  | refresh => exact .bind (.bind hcontents)
  | describe => exact .bind hcontents
  | _ => exact .bind (.bind hcontents)

/-- A body whose arguments are right fails where its receiver is not found. -/
theorem performOn_absent [Library] (hkind : b.kind = .ofInstance) (htally : b.isTally = false)
    (h : b.check args = .ok ()) (hi : w.registry.lookup i = .error f) :
    (performOn call i b args).Declines w f := by
  cases b with
  | objectCount _ => cases hkind
  | selector b => exact Selectors.performOn_absent hkind hi
  | list r b => exact Lists.perform_absent h hi
  | object r b => exact .bind (contents_absent hi).2.1
  | logs b => exact Logs.perform_absent h hi
  | tally _ _ => cases htally

/-! ## Calls -/

section

variable {m : BoundMethod} {k : Nat}

/-- What a call of a method on an instance of its class comes to. -/
theorem run_callAt_receiver [Library] (hbound : w.registry.bound[k]? = some m)
    (hkind : m.method.body.kind = .ofInstance) (hcls : i.cls = m.cls) (depth : Nat) :
    (callAt (depth + 1) (.host (.method k)) (.instance i :: args)).run w =
      (do
        Run.liftRefusal (m.checkArity args.length)
        performOn (callAt depth) i m.method.body args : Run (List Value)).run w := by
  refine (run_bind_of_ok run_registry).trans ?_
  have hreceiver : m.receiver? (.instance i :: args) = some (i, args) := by
    simp [BoundMethod.receiver?, hcls]
  simp only [hbound, callMethod, hkind, hreceiver]

theorem callAt_refused [Library] (hbound : w.registry.bound[k]? = some m)
    (hkind : m.method.body.kind = .ofInstance) (hcls : i.cls = m.cls)
    (h : m.check args = .error f) (depth : Nat) :
    (callAt (depth + 1) (.host (.method k)) (.instance i :: args)).Declines w f := by
  refine (run_callAt_receiver hbound hkind hcls depth).trans ?_
  unfold BoundMethod.check at h
  cases harity : m.checkArity args.length with
  | error r =>
    rw [harity] at h
    cases h
    rfl
  | ok _ =>
    rw [harity] at h
    exact performOn_refused h

theorem callAt_absent [Library] (hbound : w.registry.bound[k]? = some m)
    (hkind : m.method.body.kind = .ofInstance) (htally : m.method.body.isTally = false)
    (hcls : i.cls = m.cls) (h : m.check args = .ok ()) (hi : w.registry.lookup i = .error f)
    (depth : Nat) :
    (callAt (depth + 1) (.host (.method k)) (.instance i :: args)).Declines w f := by
  refine (run_callAt_receiver hbound hkind hcls depth).trans ?_
  unfold BoundMethod.check at h
  cases harity : m.checkArity args.length with
  | error r =>
    rw [harity] at h
    cases h
  | ok _ =>
    rw [harity] at h
    exact performOn_absent hkind htally h hi

/-- An instance of another class is refused before anything else. -/
theorem callAt_wrongReceiver [Library] (hbound : w.registry.bound[k]? = some m)
    (hkind : m.method.body.kind = .ofInstance) (hcls : i.cls ≠ m.cls) (depth : Nat) :
    (callAt (depth + 1) (.host (.method k)) (.instance i :: args)).Declines w
      (.refused (.wrongReceiver m.qualifiedName m.className)) := by
  refine (run_bind_of_ok run_registry).trans ?_
  have hreceiver : m.receiver? (.instance i :: args) = none := by
    simp [BoundMethod.receiver?, hcls]
  simp only [hbound, callMethod, hkind, hreceiver]
  rfl

theorem trapped_absent {trap : Trap} (htrap : trap ≠ .tally)
    (hi : w.registry.lookup i = .error f) (name : String) : (trapped trap i name).Declines w f := by
  cases trap with
  | path kind => exact .bind (.lookup hi)
  | key => exact .bind (.lookup hi)
  | tally => exact absurd rfl htrap

end

end

/-! ## Sessions -/

/-- Methods know the names of their classes, and none is of a tally. -/
theorem installed_methods {host : Host} {b : BoundMethod}
    (hb : b ∈ (Engine.installed host).registry.bound) :
    ((Engine.installed host).registry.classes[b.cls]?.map (·.name)) = some b.className ∧
      b.method.body.isTally = false := by
  have hall : ∀ b ∈ (Engine.installed default).registry.bound.toList,
      ((Engine.installed default).registry.classes[b.cls]?.map (·.name)) = some b.className ∧
        b.method.body.isTally = false := by
    decide +kernel
  rw [installed_registry host default] at hb ⊢
  exact hall b (Array.mem_def.1 hb)

theorem installed_traps {host : Host} {c : Class}
    (hc : c ∈ (Engine.installed host).registry.classes) : c.trap ≠ some .tally := by
  have hall : ∀ c ∈ (Engine.installed default).registry.classes, c.trap ≠ some .tally := by
    decide +kernel
  rw [installed_registry host default] at hc
  exact hall c hc

namespace Moment

variable {host : Host} {i : Instance} {k : Nat} {b : BoundMethod}

theorem method [Library] (m : Moment host) (hbound : m.world.registry.bound[k]? = some b) :
    (∃ c, m.world.registry.classes[b.cls]? = some c ∧ c.name = b.className) ∧
      b.method.body.isTally = false := by
  rw [m.carries.bound] at hbound
  obtain ⟨hname, htally⟩ := installed_methods (Array.mem_of_getElem? hbound)
  obtain ⟨c, hc, hname⟩ := Option.map_eq_some_iff.1 hname
  obtain ⟨c', hc', hname', -⟩ := m.carries.classes hc
  exact ⟨⟨c', hc', hname'.trans hname⟩, htally⟩

theorem trap [Library] (m : Moment host) {cls : Nat} {c : Class}
    (hc : m.world.registry.classes[cls]? = some c) : c.trap ≠ some .tally := by
  have hprofile := congrArg (fun l => l[cls]?) m.carries.profile
  simp only [Registry.profile, List.getElem?_map, hc, Option.map_some] at hprofile
  obtain ⟨c₀, hc₀, heq⟩ := Option.map_eq_some_iff.1 hprofile.symm
  simp only [Prod.mk.injEq] at heq
  rw [← heq.2.2]
  exact installed_traps (List.mem_of_getElem? hc₀)

theorem lookup_noInstance [Library] (m : Moment host) {c : Class}
    (hc : m.world.registry.classes[i.cls]? = some c) (h : i ∉ m.issued) :
    m.world.registry.lookup i = .error (.noInstance c.name i.handle) := by
  rw [m.lookup_absent h, Registry.notFound, Registry.className, Registry.cls, hc]
  rfl

end Moment

/-- **References that were never handed out reach nothing.** Whatever chunks a session evaluates,
it comes to a moment. At every moment, a reference finds an instance exactly if a deed has handed
it out, and no number was handed out for two classes. So a reference with class and number of one
that was handed out is equal to that, and every call does the same with both. A method whose
arguments are wrong fails for that, whatever instance of its class it is called on; otherwise it
fails on a reference that was not handed out, for there is no such instance, and so do the members
that its class leaves to a trap. On an instance of another class a method is refused. Wherever a
method or a trap fails so, nothing at all has changed. -/
theorem only_issued_references_reach [Library] (cluster : Cluster) (ns : String) (mode : NumberMode)
    (now : Timestamp) (files : FileTree) (environment : List (String × String)) :
    (∀ chunks, ∃ m : Moment ⟨cluster, namespaceOf ns, mode, now, files, environment⟩,
      m.world = (evaluated (Session.new cluster ns mode now files environment) chunks).world) ∧
    ∀ m : Moment ⟨cluster, namespaceOf ns, mode, now, files, environment⟩, ∀ i : Instance,
      (m.world.Finds i ↔ i ∈ m.issued) ∧
      (∀ genuine ∈ m.issued, i.handle = genuine.handle →
        (i ∈ m.issued ↔ i.cls = genuine.cls) ∧
        (i.cls = genuine.cls → (Value.instance i).equal (.instance genuine) = true ∧
          ∀ depth f args, callAt depth f (.instance i :: args) =
            callAt depth f (.instance genuine :: args))) ∧
      (∀ (k : Nat) (b : BoundMethod), m.world.registry.bound[k]? = some b →
        b.method.body.kind = .ofInstance → ∀ depth args,
          (i.cls = b.cls → ∀ f, b.check args = .error f →
            (callAt (depth + 1) (.host (.method k)) (.instance i :: args)).Declines m.world f) ∧
          (i.cls = b.cls → i ∉ m.issued → b.check args = .ok () →
            (callAt (depth + 1) (.host (.method k)) (.instance i :: args)).Declines m.world
              (.noInstance b.className i.handle)) ∧
          (i.cls ≠ b.cls →
            (callAt (depth + 1) (.host (.method k)) (.instance i :: args)).Declines m.world
              (.refused (.wrongReceiver b.qualifiedName b.className)))) ∧
      ∀ c trap, m.world.registry.classes[i.cls]? = some c → c.trap = some trap →
        i ∉ m.issued → ∀ name,
          (trapped trap i name).Declines m.world (.noInstance c.name i.handle) := by
  let host : Host := ⟨cluster, namespaceOf ns, mode, now, files, environment⟩
  have hw : (Engine.installed host).Furnished := (installed_intact host).1.furnished
  refine ⟨fun chunks => ?_, fun m i => ⟨m.found_iff, fun genuine hgenuine hhandle => ?_,
    fun k b hbound hkind depth args => ⟨?_, ?_, ?_⟩, fun c trap hc htrap habsent name => ?_⟩⟩
  · obtain ⟨deeds, hcourse⟩ := evaluated_leads hw chunks
    exact ⟨⟨deeds, _, hcourse.steps⟩, rfl⟩
  · have hsame : i.cls = genuine.cls → i = genuine := by
      intro hcls
      cases i
      cases genuine
      simp_all
    refine ⟨⟨fun hi => by rw [m.issued_unique hi hgenuine hhandle], fun hcls => ?_⟩, ?_⟩
    · rwa [hsame hcls]
    · intro hcls
      rw [hsame hcls]
      exact ⟨by simp [Value.equal], fun _ _ _ => rfl⟩
  · exact fun hcls f hcheck => callAt_refused hbound hkind hcls hcheck depth
  · intro hcls habsent hcheck
    obtain ⟨⟨c, hc, hname⟩, htally⟩ := m.method hbound
    have hi := m.lookup_noInstance (hcls ▸ hc) habsent
    rw [hname] at hi
    exact callAt_absent hbound hkind htally hcls hcheck hi depth
  · exact fun hcls => callAt_wrongReceiver hbound hkind hcls depth
  · refine trapped_absent ?_ (m.lookup_noInstance hc habsent) name
    rintro rfl
    exact m.trap hc htrap

end Script

end ClusterScript
