import ClusterScript.Cluster.Decoding
import ClusterScript.Proofs.Registry.Instances
import ClusterScript.Proofs.Script.Blockless
import ClusterScript.Script.Evaluation

/-!
# Calls take effect as a whole or not at all

A call of a query verb, of a getter, of `make_pod` or of a method of lists,
objects and logs first does all that can fail and then changes the registry
once. So a call that fails leaves everything as it was. A call that succeeds
adds instances, and changes at most its receiver.

The arguments must hold no function: a block is a script, and what a script
does before it fails stays done.

* `World.ChangesOnly`: which instances may have changed, and into what.
* `callAt_atomic`: the property of all those calls.
-/
namespace ClusterScript.Script

/-- Instances are kept, and a state changes only where that is allowed. -/
def World.ChangesOnly (allowed : Nat → Slot → Slot → Prop) (w w' : World) : Prop :=
  ∀ k old, w.registry.slots[k]? = some old →
    ∃ new, w'.registry.slots[k]? = some new ∧ (new = old ∨ allowed k old new)

/-- No instance changes. -/
abbrev World.Spares : World → World → Prop := World.ChangesOnly fun _ _ _ => False

namespace World.ChangesOnly

variable {allowed allowed' : Nat → Slot → Slot → Prop} {w w₁ w' : World}

theorem refl (w : World) : ChangesOnly allowed w w := fun _ old h => ⟨old, h, Or.inl rfl⟩

theorem of_slots (h : w'.registry.slots = w.registry.slots) : ChangesOnly allowed w w' :=
  fun _ old hold => ⟨old, h ▸ hold, Or.inl rfl⟩

theorem of_untouched (h : w.Untouched w') : ChangesOnly allowed w w' :=
  of_slots (congrArg Registry.slots h.registry)

theorem mono (h : ChangesOnly allowed w w')
    (hallowed : ∀ k old new, allowed k old new → allowed' k old new) :
    ChangesOnly allowed' w w' := by
  intro k old hold
  obtain ⟨new, hnew, heq | hok⟩ := h k old hold
  · exact ⟨new, hnew, Or.inl heq⟩
  · exact ⟨new, hnew, Or.inr (hallowed k old new hok)⟩

/-- What did not change before may still change. -/
theorem after (h : w.Spares w₁) (h' : ChangesOnly allowed w₁ w') : ChangesOnly allowed w w' := by
  intro k old hold
  obtain ⟨mid, hmid, rfl | hfalse⟩ := h k old hold
  · exact h' k mid hmid
  · cases hfalse

theorem push (w : World) (slot : Slot) (classes : List Class) :
    ChangesOnly allowed w { w with
      registry :=
        { w.registry with classes := classes, slots := w.registry.slots.push slot } } := by
  intro k old hold
  have hlt : k < w.registry.slots.size := (Array.getElem?_eq_some_iff.1 hold).1
  exact ⟨old, by simp [Array.getElem?_push, Nat.ne_of_lt hlt, hold], Or.inl rfl⟩

/-- Replacing one state. -/
theorem update (w : World) (i : Instance) (state : InstanceState)
    (h : ∀ old, w.registry.slots[i.handle]? = some old → allowed i.handle old ⟨i.cls, state⟩) :
    ChangesOnly allowed w { w with registry := w.registry.update i state } := by
  intro k old hold
  have hlt : k < w.registry.slots.size := (Array.getElem?_eq_some_iff.1 hold).1
  by_cases hk : i.handle = k
  · subst hk
    exact ⟨⟨i.cls, state⟩, by simp [Registry.update, hlt], Or.inr (h old hold)⟩
  · exact ⟨old, by simp [Registry.update, Array.getElem?_setIfInBounds_ne hk, hold], Or.inl rfl⟩

end World.ChangesOnly

/-! ## Instances -/

namespace Run

section

variable {α : Type} {w w₀ : World} {i : Instance} {state : InstanceState}

/-- A new instance is the last thing that can fail. -/
theorem newInstanceOf_ends (name : String) (state : InstanceState) (hw : w₀.Untouched w) :
    (newInstanceOf name state).Ends w (fun _ => w₀.Spares) w₀.Untouched := by
  cases h : w.registry.classId? name with
  | some id => exact .of_ok (run_newInstanceOf h state) (.after (.of_untouched hw) (.push w _ _))
  | none =>
    obtain ⟨e, he⟩ := run_newInstanceOf_undefined h state
    exact .of_error he hw

/-- What leaves everything alone changes no instance. -/
theorem Quiet.spares {act : Run α} (h : Quiet act) (hw : w₀.Untouched w) :
    act.Ends w (fun _ => w₀.Spares) w₀.Untouched :=
  (h.ends hw).mono (fun _ _ => .of_untouched) fun _ h => h

/-- What changes no instance changes only what is allowed. -/
theorem Ends.of_spares {act : Run α} {allowed : Nat → Slot → Slot → Prop} {F : World → Prop}
    (h : act.Ends w (fun _ => w₀.Spares) F) :
    act.Ends w (fun _ => w₀.ChangesOnly allowed) F :=
  h.mono (fun _ _ h => h.mono fun _ _ _ => False.elim) fun _ h => h

theorem update_ends {allowed : Nat → Slot → Slot → Prop} (hw : w₀.Spares w)
    (h : ∀ old, w.registry.slots[i.handle]? = some old → allowed i.handle old ⟨i.cls, state⟩) :
    (update i state).Ends w (fun _ => w₀.ChangesOnly allowed) w₀.Untouched :=
  .of_ok rfl (.after hw (.update w i state h))

end

end Run

/-! ## Queries and lists -/

section

variable {w₀ w : World} {call : Caller} {r : Resource} {i : Instance} {args : List Value}

open Run

theorem fetch_quiet [Library] (r : Resource) (q : Query) : Quiet (fetch r q) :=
  Quiet.currentNamespace.bind fun _ =>
    (Quiet.askCluster fun c => by cases c <;> rfl).bind fun _ => .pure _

theorem treeValue_quiet (j : Json) : Quiet (treeValue j) :=
  Quiet.host.bind fun _ => .fromJson _ j

theorem newList_ends [Library] (r : Resource) (q : Query) (hw : w₀.Untouched w) :
    (newList r q).Ends w (fun _ => w₀.Spares) w₀.Untouched :=
  .bind ((fetch_quiet r q).ends hw) fun _ _ hw =>
    .bind (newInstanceOf_ends _ _ hw) fun _ _ hw => .pure hw

theorem newObject_ends (r : Resource) (object : Json) (hw : w₀.Untouched w) :
    (newObject r object).Ends w (fun _ => w₀.Spares) w₀.Untouched :=
  .bind (newInstanceOf_ends _ _ hw) fun _ _ hw => .pure hw

/-- Where the class is there, all the objects of a list get their instances. -/
theorem run_newObjects {id : Nat} (items : List Json) (h : w.registry.classId? r.kind = some id) :
    ∃ values w', (newObjects r items).run w = .ok values w' ∧ w.Spares w' := by
  induction items generalizing w with
  | nil => exact ⟨[], w, rfl, .refl w⟩
  | cons j rest ih =>
    obtain ⟨values, w', hrest, hspares⟩ := ih
      (w := { w with registry := w.registry.allocated id (.object j) })
      (by simpa using h)
    have hfirst : (newObject r j).run w = .ok (.instance ⟨id, w.registry.slots.size⟩)
        { w with registry := w.registry.allocated id (.object j) } := by
      rw [newObject, run_bind_of_ok (run_newInstanceOf h _)]
      rfl
    refine ⟨.instance ⟨id, w.registry.slots.size⟩ :: values, w', ?_,
      .after (.push w _ _) hspares⟩
    rw [newObjects, run_bind_of_ok hfirst, run_bind_of_ok hrest]
    rfl

/-- The objects of a list fail to get instances only before the first of them has one. -/
theorem newObjects_ends (items : List Json) (hw : w₀.Untouched w) :
    (newObjects r items).Ends w (fun _ => w₀.Spares) w₀.Untouched := by
  cases h : w.registry.classId? r.kind with
  | some id =>
    obtain ⟨values, w', hrun, hspares⟩ := run_newObjects items h
    exact .of_ok hrun (.after (.of_untouched hw) hspares)
  | none =>
    cases items with
    | nil => exact .pure (.of_untouched hw)
    | cons j rest =>
      obtain ⟨e, he⟩ := run_newInstanceOf_undefined h (.object j)
      refine .of_error (e := e) ?_ hw
      rw [newObjects, newObject, bind_assoc, EStateM.run_bind, he]

namespace Lists

theorem contents_ends {P : Query × List Json → World → Prop} {F : World → Prop}
    (hdone : ∀ q items, w.registry.lookup i = .ok (.list q items) → P (q, items) w)
    (hfailed : F w) : (contents i).Ends w P F := by
  refine .bind (Ends.lookup (P := fun state w' =>
    w.registry.lookup i = .ok state ∧ w' = w) (fun state h => ⟨h, rfl⟩) hfailed) ?_
  intro state _ hend
  obtain ⟨h, rfl⟩ := hend
  cases state with
  | list q items => exact .pure (hdone q items h)
  | _ => exact .notFound hfailed

theorem wrap_ends (r : Resource) (choice : Option Json) (hw : w₀.Untouched w) :
    (wrap r choice).Ends w (fun _ => w₀.Spares) w₀.Untouched := by
  cases choice with
  | none => exact .pure (.of_untouched hw)
  | some j => exact .bind (newObject_ends r j hw) fun _ _ hw => .pure hw

theorem itemAt_ends (r : Resource) (hw : w₀.Untouched w) :
    (itemAt r i args).Ends w (fun _ => w₀.Spares) w₀.Untouched := by
  cases args with
  | nil => exact .refuse hw
  | cons v rest =>
    refine .bind (.liftRefusal (P := fun _ => w₀.Untouched) (fun _ _ => hw) hw)
      fun index w₁ hw₁ => ?_
    refine .bind (contents_ends (P := fun _ => w₀.Untouched) (fun _ _ _ => hw₁) hw₁) ?_
    exact fun p w₂ hw₂ => wrap_ends r _ hw₂

/-- Choosing needs no instance. -/
theorem anyOf_quiet [Library] (items : List Json) : Quiet (anyOf items) :=
  Quiet.registry.bind fun _ => .pure _

/-- A list asked again gets its query and its objects together, as the last step. -/
theorem refresh_ends [Library] (hargs : ∀ v ∈ args, v.HoldsNoFunction w.tables) :
    (refresh call r i args).Ends w (fun _ => w.ChangesOnly fun k _ _ => k = i.handle)
      w.Untouched := by
  have hupdate : ∀ q w₁, w.Untouched w₁ →
      (do let items ← fetch r q; update i (.list q items) : Run Unit).Ends w₁
        (fun _ => w.ChangesOnly fun k _ _ => k = i.handle) w.Untouched := fun q w₁ hw₁ =>
    .bind ((fetch_quiet r q).ends hw₁) fun items w₂ hw₂ =>
      update_ends (.of_untouched hw₂) fun _ _ => rfl
  refine .bind (contents_ends (P := fun _ w' => w' = w) (fun _ _ _ => rfl) (.refl w)) ?_
  rintro ⟨q, items⟩ w' hw'
  subst hw'
  cases args with
  | nil => exact hupdate q _ (.refl _)
  | cons v rest => exact .bind (queryOf_quiet (.refl _) hargs) hupdate

/-- What is done with the contents of a list after they were looked up. -/
theorem contents_bind_ends {f : Query × List Json → Run (List Value)}
    (hf : ∀ q items, (f (q, items)).Ends w (fun _ => w.Spares) w.Untouched) :
    (contents i >>= f).Ends w (fun _ => w.Spares) w.Untouched := by
  refine .bind (contents_ends (P := fun _ w' => w' = w) (fun _ _ _ => rfl) (.refl w)) ?_
  rintro ⟨q, items⟩ _ rfl
  exact hf q items

/-- Only the method that asks again changes a state, and only that of its list. -/
theorem perform_ends [Library] (b : ListBody) (hargs : ∀ v ∈ args, v.HoldsNoFunction w.tables) :
    (perform call r i b args).Ends w
      (fun _ => w.ChangesOnly fun k _ _ => b = .refresh ∧ k = i.handle) w.Untouched := by
  by_cases hb : b = .refresh
  · subst hb
    refine .bind (refresh_ends hargs) fun _ w₁ hw₁ => ?_
    exact .pure (hw₁.mono fun _ _ _ h => ⟨rfl, h⟩)
  · refine Ends.of_spares ?_
    cases b with
    | refresh => exact absurd rfl hb
    | «at» => exact itemAt_ends r (.refl w)
    | describe | count | json | yaml =>
      exact contents_bind_ends fun q items => (Quiet.pure _).spares (.refl w)
    | first => exact contents_bind_ends fun q items => wrap_ends r items.head? (.refl w)
    | any =>
      exact contents_bind_ends fun q items =>
        .bind ((anyOf_quiet items).ends (.refl w)) fun choice _ hw => wrap_ends r choice hw
    | last => exact contents_bind_ends fun q items => wrap_ends r items.getLast? (.refl w)
    | items =>
      exact contents_bind_ends fun q items => .bind (newObjects_ends items (.refl w)) fun _ _ h =>
        .bind (.newSequence (.after h (.of_slots rfl))) fun _ _ h => .pure h
    | names =>
      exact contents_bind_ends fun q items =>
        ((Quiet.newSequence _).bind fun _ => .pure _).spares (.refl w)
    | table =>
      exact contents_bind_ends fun q items =>
        (Quiet.host.bind fun _ => .pure _).spares (.refl w)
    | tree =>
      exact contents_bind_ends fun q items =>
        ((treeValue_quiet (.arr items)).bind fun _ => .pure _).spares (.refl w)

end Lists

/-! ## Objects -/

namespace Objects

theorem objectOf_quiet (i : Instance) : Quiet (objectOf i) := by
  refine (Quiet.lookup i).bind fun state => ?_
  cases state with
  | object j => exact .pure j
  | _ => exact .notFound i

theorem addressOf_quiet (r : Resource) (object : Json) : Quiet (addressOf r object) := by
  unfold addressOf
  repeat' split
  · exact .refuse _
  · exact .pure _
  · exact Quiet.currentNamespace.bind fun _ => .liftRefusal _

theorem pods_ends [Library] (r : Resource) (object : Json) (hw : w₀.Untouched w) :
    (pods r object).Ends w (fun _ => w₀.Spares) w₀.Untouched := by
  refine .bind ((addressOf_quiet r object).ends hw) ?_
  rintro ⟨ns, name⟩ w₁ hw₁
  refine .bind ((Quiet.lift _).ends hw₁) fun labels w₂ hw₂ => ?_
  split
  · exact .refuse hw₂
  · exact .bind ((Quiet.liftRefusal _).ends hw₂) fun q w₃ hw₃ => newList_ends .pod q hw₃

theorem kept_create [Library] {ns : String} {object : Json} {c : Cluster} {e : Fault}
    (h : (Cluster.create r ns object c).1 = .error e) :
    (Cluster.create r ns object c).2.kept? = c.kept? := by
  cases c with
  | store s =>
    by_cases hany : s.objects.any (Store.isAt r ns (Object.name object))
    · simp [Cluster.create, Store.create, hany]
    · simp [Cluster.create, Store.create, hany] at h
  | client c =>
    simp only [Cluster.create]
    split <;> rfl

theorem kept_delete [Library] {ns name : String} {c : Cluster} {e : Fault}
    (h : (Cluster.delete r ns name c).1 = .error e) :
    (Cluster.delete r ns name c).2.kept? = c.kept? := by
  cases c with
  | store s =>
    by_cases hany : s.objects.any (Store.isAt r ns name)
    · simp [Cluster.delete, Store.delete, hany] at h
    · simp [Cluster.delete, Store.delete, hany]
  | client c => rfl

/-- An operation of the cluster that keeps its objects and its record whenever it fails. -/
theorem askCluster_ends {α : Type} {operation : Cluster → Except Fault α × Cluster}
    (h : ∀ c e, (operation c).1 = .error e → (operation c).2.kept? = c.kept?)
    (hw : w₀.Untouched w) :
    (Run.askCluster operation).Ends w (fun _ => w₀.Spares) w₀.Untouched := by
  refine .askCluster (fun _ _ _ _ => .after (.of_untouched hw) (.of_slots rfl))
    (fun session e hsession he => ?_) hw
  exact hw.trans ⟨rfl, by simp [hsession], by simp [hsession, h session.cluster e he]⟩

/-- Only `refresh` and `create` change a state, and only that of their object. -/
theorem perform_ends [Library] (r : Resource) (i : Instance) (b : ObjectBody) (w : World) :
    (perform r i b).Ends w
      (fun _ => w.ChangesOnly fun k _ _ => (b = .refresh ∨ b = .create) ∧ k = i.handle)
      w.Untouched := by
  refine .bind ((objectOf_quiet i) w) fun object w₁ hw₁ => ?_
  cases b with
  | name | namespaceName | describe | json | yaml => exact .of_spares ((Quiet.pure _).spares hw₁)
  | labels | tree =>
    exact .of_spares (((treeValue_quiet _).bind fun _ => .pure _).spares hw₁)
  | pods => exact .of_spares (.bind (pods_ends r object hw₁) fun _ _ h => .pure h)
  | refresh =>
    refine .bind ((addressOf_quiet r object).ends hw₁) ?_
    rintro ⟨ns, name⟩ w₂ hw₂
    refine .bind ((Quiet.askCluster fun c => by cases c <;> rfl).ends hw₂) fun fresh w₃ hw₃ => ?_
    exact .bind (update_ends (.of_untouched hw₃) fun _ _ => ⟨Or.inl rfl, rfl⟩) fun _ _ h => .pure h
  | create =>
    refine .bind ((addressOf_quiet r object).ends hw₁) ?_
    rintro ⟨ns, name⟩ w₂ hw₂
    refine .bind (askCluster_ends (fun _ _ => kept_create) hw₂) fun created w₃ hw₃ => ?_
    exact .bind (update_ends hw₃ fun _ _ => ⟨Or.inr rfl, rfl⟩) fun _ _ h => .pure h
  | delete =>
    refine .of_spares (.bind ((addressOf_quiet r object).ends hw₁) ?_)
    rintro ⟨ns, name⟩ w₂ hw₂
    exact .bind (askCluster_ends (fun _ _ => kept_delete) hw₂) fun _ _ h => .pure h
  | logs =>
    refine .of_spares (.bind ((addressOf_quiet .pod object).ends hw₁) ?_)
    rintro ⟨ns, name⟩ w₂ hw₂
    exact .bind (newInstanceOf_ends _ _ hw₂) fun _ _ h => .pure h

theorem find_ends [Library] (r : Resource) (args : List Value) (w : World) :
    (find r args).Ends w (fun _ => w.Spares) w.Untouched := by
  have hrefuse := Ends.refuse (α := Value) (w := w) (P := fun _ => w.Spares)
    (r := .objectName r.singular) (World.Untouched.refl w)
  match args with
  | [] => exact hrefuse
  | _ :: _ :: _ => exact hrefuse
  | [v] =>
    refine .bind ((Quiet.lift v.hostText) w) fun text w₁ hw₁ => ?_
    cases text with
    | none => exact .refuse hw₁
    | some s =>
      refine .bind (Quiet.currentNamespace.ends hw₁) fun current w₂ hw₂ => ?_
      exact .bind ((Quiet.askCluster fun c => by cases c <;> rfl).ends hw₂) fun object w₃ hw₃ =>
        newObject_ends r object hw₃

end Objects

theorem makePod_ends (args : List Value) (w : World) :
    (makePod args).Ends w (fun _ => w.Spares) w.Untouched := by
  unfold makePod
  split
  · refine .bind (Quiet.get w) fun w' w₁ hw₁ => ?_
    refine .bind ((Quiet.lift _).ends hw₁) fun params w₂ hw₂ => ?_
    exact .bind ((Quiet.liftRefusal _).ends hw₂) fun pod w₃ hw₃ => newObject_ends .pod pod hw₃
  · exact .refuse (.refl w)

/-! ## Logs -/

namespace Logs

/-- Handles to the log of the same pod; the kept text may differ. -/
def SameLog (old new : Slot) : Prop :=
  ∃ cls ns pod before now, old = ⟨cls, .logs ns pod before⟩ ∧ new = ⟨cls, .logs ns pod now⟩

theorem contents_ends {P : String × String × Option String → World → Prop} {F : World → Prop}
    (hdone : ∀ ns pod text, w.registry.lookup i = .ok (.logs ns pod text) → P (ns, pod, text) w)
    (hfailed : F w) : (contents i).Ends w P F := by
  refine .bind (Ends.lookup (P := fun state w' =>
    w.registry.lookup i = .ok state ∧ w' = w) (fun state h => ⟨h, rfl⟩) hfailed) ?_
  intro state _ hend
  obtain ⟨h, rfl⟩ := hend
  cases state with
  | logs ns pod text => exact .pure (hdone ns pod text h)
  | _ => exact .notFound hfailed

/-- Reading a log again replaces the text that is kept, and only if there is a new one. -/
theorem download_ends [Library] (hw : w₀.Untouched w) :
    (download i).Ends w
      (fun _ => w₀.ChangesOnly fun k old new => k = i.handle ∧ SameLog old new) w₀.Untouched := by
  refine .bind (contents_ends (P := fun p w' =>
    w.registry.lookup i = .ok (.logs p.1 p.2.1 p.2.2) ∧ w' = w) (fun _ _ _ h => ⟨h, rfl⟩) hw) ?_
  rintro ⟨ns, pod, before⟩ w₁ ⟨hlookup, rfl⟩
  refine .bind (Ends.askCluster (P := fun _ w' => w₁.Untouched w')
    (fun session v hsession _ => ⟨rfl, by simp [hsession], ?_⟩)
    (fun session e hsession _ => hw.trans ⟨rfl, by simp [hsession], ?_⟩) hw) ?_
  · simp [hsession]
    cases session.cluster <;> rfl
  · simp [hsession]
    cases session.cluster <;> rfl
  · intro text w₂ hw₂
    refine .bind (update_ends (.of_untouched (hw.trans hw₂)) fun old hold => ⟨rfl, ?_⟩)
      fun _ _ h => .pure h
    rw [hw₂.registry, Registry.lookup_eq_ok.1 hlookup] at hold
    cases hold
    exact ⟨i.cls, ns, pod, before, some text, rfl, rfl⟩

theorem textOf_ends [Library] (hw : w₀.Untouched w) :
    (textOf i).Ends w
      (fun _ => w₀.ChangesOnly fun k old new => k = i.handle ∧ SameLog old new) w₀.Untouched := by
  refine .bind (contents_ends (P := fun _ => w₀.Untouched) (fun _ _ _ _ => hw) hw) ?_
  rintro ⟨ns, pod, text⟩ w₁ hw₁
  cases text with
  | some text => exact .pure (.of_untouched hw₁)
  | none => exact download_ends hw₁

theorem grep_ends [Library] (args : List Value) (w : World) :
    (grep i args).Ends w
      (fun _ => w.ChangesOnly fun k old new => k = i.handle ∧ SameLog old new) w.Untouched := by
  unfold grep
  split
  · exact .refuse (.refl w)
  · refine .bind ((Quiet.lift _) w) fun ps w₁ hw₁ => ?_
    refine .bind (contents_ends (P := fun _ => w.Untouched) (fun _ _ _ _ => hw₁) hw₁) ?_
    rintro ⟨ns, pod, text⟩ w₂ hw₂
    exact .bind (textOf_ends hw₂) fun _ _ h => .pure h

/-- A method of a log changes no more than the text that its receiver keeps. -/
theorem perform_ends [Library] (i : Instance) (b : LogBody) (args : List Value) (w : World) :
    (perform i b args).Ends w
      (fun _ => w.ChangesOnly fun k old new => b ≠ .describe ∧ k = i.handle ∧ SameLog old new)
      w.Untouched := by
  have hcached : ∀ {w' : World}, b ≠ .describe →
      w.ChangesOnly (fun k old new => k = i.handle ∧ SameLog old new) w' →
      w.ChangesOnly (fun k old new => b ≠ .describe ∧ k = i.handle ∧ SameLog old new) w' :=
    fun hb h => h.mono fun _ _ _ h => ⟨hb, h⟩
  cases b with
  | describe =>
    refine .bind (contents_ends (P := fun _ => w.Untouched) (fun _ _ _ _ => .refl w)
      (.refl w)) ?_
    exact fun _ _ h => .pure (.of_untouched h)
  | refresh =>
    exact .bind (download_ends (.refl w)) fun _ _ h => .pure (hcached (by simp) h)
  | text => exact .bind (textOf_ends (.refl w)) fun _ _ h => .pure (hcached (by simp) h)
  | lines =>
    exact .bind (textOf_ends (.refl w)) fun _ _ h =>
      .bind (.newSequence (hcached (by simp) h)) fun _ _ h => .pure h
  | puts =>
    exact .bind (textOf_ends (.refl w)) fun text w₁ h => .of_ok rfl (hcached (by simp) h)
  | grep =>
    exact .bind (grep_ends args w) fun _ _ h =>
      .bind (.newSequence (hcached (by simp) h)) fun _ _ h => .pure h

end Logs

/-! ## Calls -/

end

end ClusterScript.Script

namespace ClusterScript

open Script

/-- The methods with a receiver that lists, objects and logs have from the start. -/
def Method.BuiltIn (m : Method) : Prop :=
  (∃ r, m ∈ Lists.methods r) ∨
    (∃ r, m ∈ Objects.methods r ++ Objects.mutableMethods r ++ Objects.finderMethods r) ∨
      m ∈ Objects.podMethods ∨ m ∈ Logs.methods

/-- When a call of a method may change the state of its receiver. -/
def Method.MayChange (m : Method) (old new : Slot) : Prop :=
  match m.body with
  | .list _ _ => m.name ∈ ["get!", "refresh"]
  | .object _ _ => m.name ∈ ["get!", "refresh", "create!", "create"]
  | .logs _ =>
    m.name ∈ ["text", "lines", "puts", "grep", "get!", "refresh"] ∧ Logs.SameLog old new
  | _ => False

/-- What a built-in method runs, and that the ones which change their receiver go by no other
names than those. -/
theorem Method.BuiltIn.body {m : Method} (h : m.BuiltIn) :
    (∃ r b, m.body = .list r b ∧ (b = .refresh → m.name ∈ ["get!", "refresh"])) ∨
      (∃ r b, m.body = .object r b ∧
        (b = .refresh ∨ b = .create → m.name ∈ ["get!", "refresh", "create!", "create"])) ∨
      ∃ b, m.body = .logs b ∧
        (b ≠ .describe → m.name ∈ ["text", "lines", "puts", "grep", "get!", "refresh"]) := by
  obtain ⟨r, h⟩ | ⟨r, h⟩ | h | h := h
  · left
    refine ⟨r, ?_⟩
    revert m
    simp [Lists.methods]
  · right
    left
    refine ⟨r, ?_⟩
    revert m
    simp [Objects.methods, Objects.mutableMethods, Objects.finderMethods]
  · right
    left
    refine ⟨.pod, ?_⟩
    revert m
    simp [Objects.podMethods]
  · right
    right
    revert m
    simp [Logs.methods]

namespace Script

/-- The functions whose calls take effect as a whole: query verbs, getters, `make_pod`, and the
built-in methods of lists, objects and logs. -/
def HostFunction.Covered (w : World) : HostFunction → Prop
  | .list _ | .object _ | .makePod => True
  | .method id => ∃ m, w.registry.bound[id]? = some m ∧ m.method.BuiltIn
  | _ => False

/-- Which state a call may change: that of its receiver, by a method that may change it. -/
def HostFunction.MayChange (w : World) (f : HostFunction) (args : List Value) (k : Nat)
    (old new : Slot) : Prop :=
  ∃ id m i rest, f = .method id ∧ w.registry.bound[id]? = some m ∧ args = .instance i :: rest ∧
    k = i.handle ∧ m.method.MayChange old new

section

variable {w : World} {call : Caller} {args : List Value}

open Run

theorem performOn_ends [Library] {m : Method} (hm : m.BuiltIn) (i : Instance)
    (hargs : ∀ v ∈ args, v.HoldsNoFunction w.tables) :
    (performOn call i m.body args).Ends w
      (fun _ => w.ChangesOnly fun k old new => k = i.handle ∧ m.MayChange old new)
      w.Untouched := by
  obtain ⟨r, b, hbody, hname⟩ | ⟨r, b, hbody, hname⟩ | ⟨b, hbody, hname⟩ := hm.body
  · rw [hbody]
    refine (Lists.perform_ends b hargs).mono (fun _ _ h => h.mono ?_) fun _ h => h
    intro k old new hend
    obtain ⟨hb, hk⟩ := hend
    exact ⟨hk, by simpa only [Method.MayChange, hbody] using hname hb⟩
  · rw [hbody]
    refine (Objects.perform_ends r i b w).mono (fun _ _ h => h.mono ?_) fun _ h => h
    intro k old new hend
    obtain ⟨hb, hk⟩ := hend
    exact ⟨hk, by simpa only [Method.MayChange, hbody] using hname hb⟩
  · rw [hbody]
    refine (Logs.perform_ends i b args w).mono (fun _ _ h => h.mono ?_) fun _ h => h
    intro k old new hend
    obtain ⟨hb, hk, hsame⟩ := hend
    exact ⟨hk, by simpa only [Method.MayChange, hbody] using ⟨hname hb, hsame⟩⟩

theorem kind_of_builtIn {m : Method} (hm : m.BuiltIn) : m.body.kind = .ofInstance := by
  obtain ⟨r, b, hbody, -⟩ | ⟨r, b, hbody, -⟩ | ⟨b, hbody, -⟩ := hm.body <;> rw [hbody] <;> rfl

theorem receiver?_eq_some {m : BoundMethod} {i : Instance} {rest : List Value}
    (h : m.receiver? args = some (i, rest)) : args = .instance i :: rest := by
  unfold BoundMethod.receiver? at h
  split at h
  · split at h
    · cases h
      rfl
    · cases h
  · cases h

theorem receiver?_cls {m : BoundMethod} {i : Instance} {rest : List Value}
    (h : m.receiver? args = some (i, rest)) : m.cls = i.cls := by
  unfold BoundMethod.receiver? at h
  split at h
  · split at h
    · next hcls =>
      cases h
      exact hcls.symm
    · cases h
  · cases h

theorem callMethod_ends [Library] {m : BoundMethod} (hm : m.method.BuiltIn)
    (hargs : ∀ v ∈ args, v.HoldsNoFunction w.tables) :
    (callMethod call m args).Ends w
      (fun _ => w.ChangesOnly fun k old new => ∃ i rest, args = .instance i :: rest ∧
        k = i.handle ∧ m.method.MayChange old new) w.Untouched := by
  unfold callMethod
  rw [kind_of_builtIn hm]
  cases hreceiver : m.receiver? args with
  | none => exact .refuse (.refl w)
  | some p =>
    obtain ⟨i, rest⟩ := p
    have hsplit := receiver?_eq_some hreceiver
    refine .bind (.liftRefusal (P := fun _ w' => w' = w) (fun _ _ => rfl) (.refl w)) ?_
    rintro _ w' hw'
    subst hw'
    refine (performOn_ends hm i fun v hv => hargs v ?_).mono
      (fun _ _ h => h.mono fun k old new h => ⟨i, rest, hsplit, h⟩) fun _ h => h
    rw [hsplit]
    exact List.mem_cons_of_mem _ hv

theorem callHost_ends [Library] (call : Caller) (runChunk : Chunk → Run (List Value))
    {f : HostFunction} (hf : f.Covered w) (hargs : ∀ v ∈ args, v.HoldsNoFunction w.tables) :
    (callHost call runChunk f args).Ends w (fun _ => w.ChangesOnly (f.MayChange w args))
      w.Untouched := by
  cases f with
  | list r =>
    refine .bind (queryOf_quiet (.refl w) hargs) fun q w₁ hw₁ => ?_
    exact .of_spares (.bind (newList_ends r q hw₁) fun _ _ h => .pure h)
  | object r => exact .of_spares (.bind (Objects.find_ends r args w) fun _ _ h => .pure h)
  | makePod => exact .of_spares (.bind (makePod_ends args w) fun _ _ h => .pure h)
  | method id =>
    obtain ⟨m, hbound, hm⟩ := hf
    refine .bind_of_ok Run.run_registry ?_
    rw [hbound]
    refine (callMethod_ends hm hargs).mono (fun _ _ h => h.mono ?_) fun _ h => h
    intro k old new hend
    obtain ⟨i, rest, hsplit, hk, hmay⟩ := hend
    exact ⟨id, m, i, rest, rfl, hbound, hsplit, hk, hmay⟩
  | _ => exact False.elim hf

/-- **Calls take effect as a whole or not at all.** Whatever the depth, the world and the
arguments, as long as these hold no function: a call that ends without a value leaves all
instances with their states, all counts, the namespace, and the objects and deletions of the
cluster as they were; a call with a value leaves all instances but its receiver as they were,
and its receiver too unless the method is one of those that change it. -/
theorem callAt_atomic [Library] (depth : Nat) (w : World) (f : HostFunction) (args : List Value)
    (hf : f.Covered w) (hargs : ∀ v ∈ args, v.HoldsNoFunction w.tables) :
    (callAt depth (.host f) args).Ends w (fun _ w' => w.ChangesOnly (f.MayChange w args) w')
      fun w' => w.Untouched w' := by
  cases depth with
  | zero => exact .of_error rfl (.refl w)
  | succ depth => exact callHost_ends (callAt depth) (runChunk (callAt depth)) hf hargs

open Library.Standard

/-- A world with one instance, the log of a pod, and the method that reads it. -/
def logWorld : World :=
  { (default : World) with
    host := some { (default : Host) with
      cluster := .store { Store.empty with logTexts := [(("shop", "web-1"), "ready")] } }
    registry :=
      ⟨1, [⟨"PodLogs", 2, [], none, 1⟩], #[⟨0, .logs "shop" "web-1" none⟩],
        #[⟨0, "PodLogs", 2, ⟨"text", .exact 0, .logs .text⟩⟩], #[]⟩ }

/-- Reading a log changes no other instance. -/
theorem callAt_atomic_text :
    (callAt 1 (.host (.method 0)) [.instance ⟨0, 0⟩]).Ends logWorld
      (fun _ w' => logWorld.ChangesOnly (fun k old new => k = 0 ∧ Logs.SameLog old new) w')
      fun w' => logWorld.Untouched w' := by
  have hcovered : (HostFunction.method 0).Covered logWorld :=
    ⟨_, rfl, Or.inr (Or.inr (Or.inr (by simp [Logs.methods, logWorld])))⟩
  refine (callAt_atomic 1 logWorld (.method 0) [.instance ⟨0, 0⟩] hcovered
    (by simp [Value.HoldsNoFunction, Value.isFunction])).mono (fun _ _ h => h.mono ?_) fun _ h => h
  intro k old new hend
  obtain ⟨id, m, i, rest, hid, hbound, hsplit, hk, hmay⟩ := hend
  cases hid
  cases hbound
  cases hsplit
  exact ⟨hk, hmay.2⟩

end

end Script

end ClusterScript
