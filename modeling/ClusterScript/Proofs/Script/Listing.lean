import ClusterScript.Proofs.Script.Addresses

/-!
# What lists hold

A query selects objects by kind, namespace, labels and name. A list on a
store holds the objects that its query selects, in the order of the store;
asked again, it holds those that its query selects now.

* `Query.Selects`: the objects that a query selects, whatever finds them.
* `fetch_selected`: what is found is what is selected.
* `World.Shelved`: lists are of classes of lists.
* `World.Stocked`: the same for a session on a store, which stays on it.
* `lists_selected`: new lists, and lists that are asked again.
-/
namespace ClusterScript

/-! ## What queries select -/

/-- Whether a namespace is one that a query looks in, from that of the session. -/
def Scope.Admits (current ns : String) : Scope → Prop
  | .everywhere => True
  | .named n => ns = n
  | .current => current = Script.allNamespaces ∨ ns = current

instance (current ns : String) (s : Scope) : Decidable (s.Admits current ns) :=
  match s with
  | .everywhere => inferInstanceAs (Decidable True)
  | .named n => inferInstanceAs (Decidable (ns = n))
  | .current => inferInstanceAs (Decidable (current = Script.allNamespaces ∨ ns = current))

/-- What a query for objects of a kind selects, where the session stands in a namespace. -/
structure Query.Selects (q : Query) (r : Resource) (current : String) (object : Json) : Prop where
  kind : (object.get "kind" == .str r.kind) = true
  scope : q.scope.Admits current (Object.namespaceName object)
  labels : Selector.holds q.options.labels ((object.get "metadata").get "labels") = true
  name : ∀ f ∈ q.filter, f.accepts (Object.name object) = true

namespace Query

variable {q : Query} {r : Resource} {current : String} {object : Json}

theorem selects_iff : q.Selects r current object ↔
    ((object.get "kind" == .str r.kind) = true ∧
      q.scope.Admits current (Object.namespaceName object)) ∧
    Selector.holds q.options.labels ((object.get "metadata").get "labels") = true ∧
    q.matchesName (Object.name object) = true := by
  have hname : q.matchesName (Object.name object) = true ↔
      ∀ f ∈ q.filter, f.accepts (Object.name object) = true := by
    simp [matchesName, Option.all_eq_true]
  rw [hname]
  exact ⟨fun h => ⟨⟨h.kind, h.scope⟩, h.labels, h.name⟩, fun h => ⟨h.1.1, h.1.2, h.2.1, h.2.2⟩⟩

instance : Decidable (q.Selects r current object) := decidable_of_iff' _ selects_iff

/-- The objects that a query selects, in their order. -/
def selected (q : Query) (r : Resource) (current : String) (objects : List Json) : List Json :=
  objects.filter fun object => q.Selects r current object

/-- Where a query names a namespace, or all, that of the session does not matter. -/
theorem selected_of_scope (h : q.scope ≠ .current) (r : Resource) (current other : String)
    (objects : List Json) : q.selected r current objects = q.selected r other objects := by
  have hadmits : ∀ ns, q.scope.Admits current ns ↔ q.scope.Admits other ns := by
    intro ns
    cases hscope : q.scope with
    | current => exact absurd hscope h
    | everywhere => exact .rfl
    | named n => exact .rfl
  refine List.filter_congr fun object _ => ?_
  simp only [selects_iff, hadmits]

end Query

namespace Script

theorem all_listNamespace (current ns : String) (s : Scope) :
    (listNamespace current s).all (fun n => ns = n) = true ↔ s.Admits current ns := by
  cases s with
  | everywhere => simp [listNamespace, Scope.Admits]
  | named n => simp [listNamespace, Scope.Admits]
  | current =>
    by_cases h : current = allNamespaces <;> simp [listNamespace, Scope.Admits, h]

/-- The store selects by kind, namespace and labels, and the rest is left to the name. -/
theorem select_selected (s : Store) (r : Resource) (q : Query) (current : String) :
    (s.select r (listNamespace current q.scope) q.options).filter
        (fun o => q.matchesName (Object.name o)) =
      q.selected r current s.objects := by
  rw [Store.select, Query.selected, List.filter_filter]
  refine List.filter_congr fun object _ => ?_
  rw [Bool.eq_iff_iff, decide_eq_true_iff, Query.selects_iff, ← all_listNamespace]
  simp only [Bool.and_eq_true, Store.hasKind]
  rw [and_comm, and_assoc]

/-! ## New lists -/

/-- A session once its store was asked for what a query selects. -/
def Host.asked (session : Host) (s : Store) (q : Query) : Host :=
  { session with cluster := .store { s with
      listed := (listNamespace session.currentNamespace q.scope, q.options) :: s.listed } }

section

variable {w : World} {session : Host} {s : Store} {r : Resource} {q : Query} {p : Instance}
variable {items : List Json}

open Run

/-- What is found is what is selected, and nothing changes but the record of what was asked. -/
theorem fetch_selected [Library] (hhost : w.host = some session)
    (hstore : session.cluster = .store s) :
    (fetch r q).run w = .ok (q.selected r session.currentNamespace s.objects)
      { w with host := some (session.asked s q) } := by
  have hask : (askCluster (Cluster.list r (listNamespace session.currentNamespace q.scope)
      q.options)).run w = .ok (s.select r (listNamespace session.currentNamespace q.scope)
        q.options) { w with host := some (session.asked s q) } := by
    refine (run_bind_of_ok (run_host hhost)).trans ?_
    rw [hstore]
    rfl
  rw [fetch, run_bind_of_ok (run_currentNamespace hhost), run_bind_of_ok hask, ← select_selected]
  rfl

/-- A new list holds what its query selects. -/
theorem newList_selected [Library] {cls : Nat} (hhost : w.host = some session)
    (hstore : session.cluster = .store s) (hcls : w.registry.classId? r.listClass = some cls) :
    ∃ i w', (newList r q).run w = .ok (.instance i) w' ∧ w'.registry.lookup i =
      .ok (.list q (q.selected r session.currentNamespace s.objects)) := by
  let state : InstanceState := .list q (q.selected r session.currentNamespace s.objects)
  have hnew := run_newInstanceOf (w := { w with host := some (session.asked s q) }) hcls state
  have hlookup : (w.registry.allocated cls state).lookup ⟨cls, w.registry.slots.size⟩ =
      .ok state := Registry.lookup_allocated
  refine ⟨⟨cls, w.registry.slots.size⟩, { w with
    registry := w.registry.allocated cls state
    host := some (session.asked s q) }, ?_, hlookup⟩
  rw [newList, run_bind_of_ok (fetch_selected hhost hstore), run_bind_of_ok hnew]
  rfl

/-! ## Lists that are asked again -/

/-- A world where a list was asked again. -/
def World.refreshed (w : World) (session : Host) (s : Store) (r : Resource) (p : Instance)
    (q : Query) : World :=
  { w with
    registry := w.registry.update p (.list q (q.selected r session.currentNamespace s.objects))
    host := some (session.asked s q) }

/-- Without arguments a list is asked for its own query again. -/
theorem run_refresh [Library] (depth : Nat) {k : Nat} {b : BoundMethod} {name : String}
    (hhost : w.host = some session) (hstore : session.cluster = .store s)
    (hp : w.registry.lookup p = .ok (.list q items)) (hbound : w.registry.bound[k]? = some b)
    (hcls : b.cls = p.cls) (hmethod : b.method = ⟨name, .any, .list r .refresh⟩) :
    (callAt (depth + 1) (.host (.method k)) [.instance p]).run w =
      .ok [.instance p] (w.refreshed session s r p q) := by
  have hkind : b.method.body.kind = .ofInstance := by
    rw [hmethod]
    rfl
  have harity : b.method.arity.Admits ([] : List Value).length := by
    rw [hmethod]
    trivial
  have hcontents : (Lists.contents p).run w = .ok (q, items) w := by
    rw [Lists.contents, run_bind_of_ok (run_lookup hp)]
    rfl
  have hrefresh : (Lists.refresh (callAt depth) r p []).run w =
      .ok () (w.refreshed session s r p q) := by
    rw [Lists.refresh, run_bind_of_ok hcontents]
    simp only [List.isEmpty_nil, if_true, pure_bind]
    rw [run_bind_of_ok (fetch_selected hhost hstore)]
    rfl
  rw [run_callAt_method hbound hcls hkind harity, hmethod]
  exact run_bind_of_ok hrefresh

theorem lookup_refreshed (hp : w.registry.lookup p = .ok (.list q items)) :
    (w.refreshed session s r p q).registry.lookup p =
      .ok (.list q (q.selected r session.currentNamespace s.objects)) :=
  (Registry.lookup_update hp).2 (by rw [if_pos rfl])

/-- Asked a second time, a list is as it was after the first, and so is all else. -/
theorem run_refresh_twice [Library] (depth : Nat) {k : Nat} {b : BoundMethod} {name : String}
    (hp : w.registry.lookup p = .ok (.list q items)) (hbound : w.registry.bound[k]? = some b)
    (hcls : b.cls = p.cls) (hmethod : b.method = ⟨name, .any, .list r .refresh⟩) :
    ∃ w', (callAt (depth + 1) (.host (.method k)) [.instance p]).run
        (w.refreshed session s r p q) = .ok [.instance p] w' ∧
      (w.refreshed session s r p q).Untouched w' := by
  let again : Store := { s with
    listed := (listNamespace session.currentNamespace q.scope, q.options) :: s.listed }
  have hstore' : (session.asked s q).cluster = .store again := rfl
  have hrun := run_refresh depth (w := w.refreshed session s r p q) rfl hstore'
    (lookup_refreshed hp) hbound hcls hmethod
  refine ⟨_, hrun, ?_, rfl, rfl⟩
  show (w.registry.update p _).update p _ = w.registry.update p _
  simp only [Registry.update, Array.setIfInBounds_setIfInBounds]
  rfl

end

/-! ## Classes of lists -/

/-- Lists are of classes of lists. -/
def World.Shelved (w : World) : Prop :=
  ∀ ⦃i q items⦄, w.registry.lookup i = .ok (.list q items) →
    ∃ r : Resource, w.registry.classId? r.listClass = some i.cls

section

variable {w w' : World} {d : Deed} {i : Instance} {name : String} {state : InstanceState}

namespace World.Shelved

/-- What is a list was one. -/
theorem keeps (h : w.Shelved) (hcarries : w.registry.Carries w'.registry)
    (hlists : ∀ i q items, w'.registry.lookup i = .ok (.list q items) →
      ∃ q items, w.registry.lookup i = .ok (.list q items)) : w'.Shelved := by
  intro i q items hi
  simp only [hcarries.classId?]
  obtain ⟨q, items, hold⟩ := hlists _ _ _ hi
  exact h hold

theorem adds (h : w.Shelved) (hadds : w.Adds name state i w') (hstate : state.isList = false) :
    w'.Shelved := by
  refine h.keeps hadds.carries fun j q items hj => ?_
  rcases hadds.lookup.1 hj with hold | ⟨-, rfl⟩
  · exact ⟨q, items, hold⟩
  · cases hstate

theorem allocated {cls : Nat} (h : w.Shelved)
    (hlist : state.isList = false ∨ ∃ r : Resource, w.registry.classId? r.listClass = some cls) :
    World.Shelved { w with registry := w.registry.allocated cls state } := by
  intro j q items hj
  simp only [(Registry.carries_allocated w.registry cls state).classId?]
  rcases Registry.lookup_allocated_iff.1 hj with hold | ⟨rfl, rfl⟩
  · exact h hold
  · rcases hlist with hstate | hcls
    · cases hstate
    · exact hcls

theorem update {old : InstanceState} (h : w.Shelved) (hi : w.registry.lookup i = .ok old)
    (hbecomes : old.Becomes state) :
    World.Shelved { w with registry := w.registry.update i state } := by
  refine h.keeps (Registry.carries_update hi hbecomes) fun j q items hj => ?_
  rw [Registry.lookup_update hi] at hj
  split at hj
  · next heq =>
    subst heq
    subst hj
    cases hbecomes
    exact ⟨_, _, hi⟩
  · exact ⟨q, items, hj⟩

theorem step [Library] (h : w.Shelved) (hw : w.Furnished) (hstep : Step w d w') : w'.Shelved := by
  have hcarries := hstep.carries hw
  cases hstep.effect hw with
  | own hregistry hhost =>
    exact h.keeps hcarries fun i q items hi => ⟨q, items, by rwa [← hregistry]⟩
  | opened hopens =>
    refine h.keeps hcarries fun i q items hi => ?_
    rcases (hopens.lookup _ _).1 hi with hold | ⟨_, -, hstate⟩ | ⟨-, hstate⟩
    · exact ⟨q, items, hold⟩
    · cases hstate
    · cases hstate
  | reached _ hadds => exact h.adds hadds rfl
  | named _ hadds => exact h.adds hadds rfl
  | extended _ _ _ hadds => exact h.adds hadds rfl
  | detached hadds => exact h.adds hadds rfl
  | recorded _ => exact h
  | dropped _ => exact h
  | closed _ _ hadds => exact h.adds hadds rfl
  | made _ hlist => exact h.allocated hlist
  | changed hfound hbecomes => exact h.update hfound hbecomes
  | asked _ => exact h
  | moved _ => exact h

theorem steps [Library] {deeds : List Deed} (h : w.Shelved) (hw : w.Furnished)
    (hsteps : Steps w deeds w') : w'.Shelved := by
  induction hsteps with
  | refl => exact h
  | step hsteps hstep ih => exact ih.step (hw.carries (hsteps.carries hw)) hstep

end World.Shelved

end

/-- In any session lists are of classes of lists. -/
theorem Moment.shelved [Library] {host : Host} (m : Moment host) : m.world.Shelved := by
  refine World.Shelved.steps (fun i q items hi => ?_) (installed_intact host).1.furnished m.steps
  rw [Registry.lookup_eq_ok, installed_slots] at hi
  simp at hi

/-! ## Sessions on stores -/

/-- The cluster is a store, and lists are of classes of lists. -/
structure World.Stocked (w : World) : Prop where
  store : ∃ session s, w.host = some session ∧ session.cluster = .store s
  lists {i : Instance} {q : Query} {items : List Json} :
    w.registry.lookup i = .ok (.list q items) →
      ∃ r : Resource, w.registry.classId? r.listClass = some i.cls

theorem Deed.onHost_store [Library] (d : Deed) {session : Host} {s : Store}
    (h : session.cluster = .store s) : ∃ s', (d.onHost session).cluster = .store s' := by
  cases d with
  | asked request =>
    obtain ⟨s', hs'⟩ := request.answered_store s
    exact ⟨s', by rw [← hs', ← h]; rfl⟩
  | _ => exact ⟨s, h⟩

theorem World.Stocked.step [Library] {w w' : World} {d : Deed} (h : w.Stocked) (hw : w.Furnished)
    (hstep : Step w d w') : w'.Stocked where
  store := by
    obtain ⟨session, s, hsession, hstore⟩ := h.store
    obtain ⟨s', hs'⟩ := d.onHost_store hstore
    exact ⟨d.onHost session, s', by rw [hstep.host hw, hsession]; rfl, hs'⟩
  lists hi := World.Shelved.step (fun _ _ _ hi => h.lists hi) hw hstep hi

theorem World.Stocked.steps [Library] {w w' : World} {deeds : List Deed} (h : w.Stocked)
    (hw : w.Furnished) (hsteps : Steps w deeds w') : w'.Stocked := by
  induction hsteps with
  | refl => exact h
  | step hsteps hstep ih => exact ih.step (hw.carries (hsteps.carries hw)) hstep

/-- A session on a store stays on one. -/
theorem Moment.stocked [Library] {host : Host} {seeded : Store}
    (m : Moment { host with cluster := .store seeded }) : m.world.Stocked := by
  obtain ⟨hintact, hhost⟩ := installed_intact { host with cluster := .store seeded }
  refine World.Stocked.steps ⟨⟨_, seeded, hhost, rfl⟩, fun {i q items} hi => ?_⟩ hintact.furnished
    m.steps
  rw [Registry.lookup_eq_ok, installed_slots] at hi
  simp at hi

/-- The class of the lists of a kind has a method that asks again. -/
theorem installed_refresh (r : Resource) : (Engine.installed default).registry.Defines r.listClass
    ⟨"refresh", .any, .list r .refresh⟩ := by
  have hall : ∀ r ∈ Resource.all, (Engine.installed default).registry.Defines r.listClass
      ⟨"refresh", .any, .list r .refresh⟩ := by
    decide +kernel
  exact hall r (by cases r <;> decide)

namespace Moment

variable {host : Host}

theorem listClass [Library] (m : Moment host) (r : Resource) :
    ∃ cls, m.world.registry.classId? r.listClass = some cls := by
  obtain ⟨cls, hcls⟩ := (installed_intact host).1.list r
  exact ⟨cls, by rw [m.carries.classId?, hcls]⟩

theorem refreshMethod [Library] (m : Moment host) {r : Resource} {cls : Nat}
    (hcls : m.world.registry.classId? r.listClass = some cls) :
    ∃ (k : Nat) (b : BoundMethod), m.world.registry.bound[k]? = some b ∧ b.cls = cls ∧
      b.method = ⟨"refresh", .any, .list r .refresh⟩ :=
  (m.defines (installed_refresh r)).bound hcls

end Moment

/-- **Lists hold what their queries select.** At every moment of a session on a store:

* a new list holds the objects of the store that its query selects, in their order;
* a query verb whose arguments are a query gives a new list of it, after what the blocks among
  them have done;
* a list that is asked again without arguments holds what its query selects now, and asking
  a second time changes nothing;
* a query that names a namespace, or all of them, selects the same whatever namespace the
  session is in, and so does a new list of it. -/
theorem lists_selected [Library] {host : Host} {seeded : Store}
    (m : Moment { host with cluster := .store seeded }) :
    ∃ session store, m.world.host = some session ∧ session.cluster = .store store ∧
      (∀ r q, ∃ i w', (newList r q).run m.world = .ok (.instance i) w' ∧
        w'.registry.lookup i =
          .ok (.list q (q.selected r session.currentNamespace store.objects))) ∧
      (∀ depth r args q w₁, (queryOf (callAt depth) args).run m.world = .ok q w₁ →
        ∃ session₁ store₁ i w', w₁.host = some session₁ ∧ session₁.cluster = .store store₁ ∧
          (callAt (depth + 1) (.host (.list r)) args).run m.world = .ok [.instance i] w' ∧
          w'.registry.lookup i =
            .ok (.list q (q.selected r session₁.currentNamespace store₁.objects))) ∧
      (∀ p q items, m.world.registry.lookup p = .ok (.list q items) →
        ∃ r : Resource, m.world.registry.classId? r.listClass = some p.cls ∧
          (∃ (k : Nat) (b : BoundMethod), m.world.registry.bound[k]? = some b ∧ b.cls = p.cls ∧
            b.method = ⟨"refresh", .any, .list r .refresh⟩) ∧
          ∀ (depth k : Nat) (b : BoundMethod) (name : String),
            m.world.registry.bound[k]? = some b → b.cls = p.cls →
            b.method = ⟨name, .any, .list r .refresh⟩ →
              ∃ w' w'', (callAt (depth + 1) (.host (.method k)) [.instance p]).run m.world =
                  .ok [.instance p] w' ∧
                w'.registry.lookup p =
                  .ok (.list q (q.selected r session.currentNamespace store.objects)) ∧
                (callAt (depth + 1) (.host (.method k)) [.instance p]).run w' =
                  .ok [.instance p] w'' ∧ w'.Untouched w'') ∧
      ∀ r q ns, q.scope ≠ .current →
        q.selected r ns store.objects = q.selected r session.currentNamespace store.objects ∧
        ∃ i w', (newList r q).run
            { m.world with host := some { session with currentNamespace := ns } } =
              .ok (.instance i) w' ∧
          w'.registry.lookup i =
            .ok (.list q (q.selected r session.currentNamespace store.objects)) := by
  obtain ⟨session, store, hhost, hstore⟩ := m.stocked.store
  refine ⟨session, store, hhost, hstore, fun r q => ?_, fun depth r args q w₁ hquery => ?_,
    fun p q items hp => ?_, fun r q ns hscope => ?_⟩
  · obtain ⟨cls, hcls⟩ := m.listClass r
    exact newList_selected hhost hstore hcls
  · have hleads := ((queryOf_traced (callAt_traced depth) args).leads m.furnished).ok q w₁ hquery
    obtain ⟨m₁, -, rfl⟩ := m.of_leads hleads
    obtain ⟨session₁, store₁, hhost₁, hstore₁⟩ := m₁.stocked.store
    obtain ⟨cls, hcls⟩ := m₁.listClass r
    obtain ⟨i, w', hrun, hi⟩ := newList_selected (q := q) hhost₁ hstore₁ hcls
    refine ⟨session₁, store₁, i, w', hhost₁, hstore₁, ?_, hi⟩
    exact (Run.run_bind_of_ok hquery).trans (Run.run_bind_of_ok hrun)
  · obtain ⟨r, hcls⟩ := m.stocked.lists hp
    refine ⟨r, hcls, ?_, fun depth k b name hbound hb hmethod => ?_⟩
    · exact m.refreshMethod hcls
    · obtain ⟨w'', hagain, hsame⟩ := run_refresh_twice depth hp hbound hb hmethod
      exact ⟨_, w'', run_refresh depth hhost hstore hp hbound hb hmethod, lookup_refreshed hp,
        hagain, hsame⟩
  · obtain ⟨cls, hcls⟩ := m.listClass r
    have hsame := q.selected_of_scope hscope r ns session.currentNamespace store.objects
    have hmoved : World.host { m.world with host := some { session with currentNamespace := ns } } =
      some { session with currentNamespace := ns } := rfl
    refine ⟨hsame, ?_⟩
    rw [← hsame]
    exact newList_selected hmoved hstore hcls

end Script

end ClusterScript
