import ClusterScript.Cluster.Decoding
import ClusterScript.Proofs.Script.SettingUp
import ClusterScript.Proofs.Script.Traces
import ClusterScript.Proofs.Text.Cutting

/-!
# The namespaces of requests

A request for a single object names one namespace. Whatever scripts do, it is
never empty; and it is the mark of all namespaces only where an object says
of itself that it lies there, since an object is addressed by what it says.
Sessions and getters never hand the mark on.

* `World.Sound`: what is known of the namespaces at hand after some deeds.
* `Step.sound`, `Course.sound`: one deed, and a row of them.
* `requests_name_namespaces`: the requests of all chunks that a session
  evaluates.
* `created_everywhere`: the mark in a request, from `make_pod`.
-/
namespace ClusterScript.Script

/-! ## Deeds and the host -/

/-- What a deed does to the host itself. -/
def Deed.onHost [Library] : Deed → Host → Host
  | .asked request, h => { h with cluster := request.answered h.cluster }
  | .moved ns, h => { h with currentNamespace := namespaceOf ns }
  | _, h => h

def Deed.question? : Deed → Option ClusterRequest
  | .asked request => some request
  | _ => none

/-- What a row of deeds has asked of the cluster, the earliest question first. -/
def questions (deeds : List Deed) : List ClusterRequest := (deeds.filterMap Deed.question?).reverse

section

variable {w w' : World} {d : Deed} {deeds : List Deed}

theorem Step.host [Library] (hw : w.Furnished) (h : Step w d w') :
    w'.host = w.host.map d.onHost := by
  have hsame : w.host.map (fun h => h) = w.host := Option.map_id'
  cases h.effect hw with
  | own _ hhost => exact hhost.trans hsame.symm
  | opened hopens => exact hopens.host.trans hsame.symm
  | reached _ hadds | named _ hadds | extended _ _ _ hadds | detached hadds | closed _ _ hadds =>
    rw [hadds.world]
    exact hsame.symm
  | recorded _ | dropped _ | made _ _ | changed _ _ => exact hsame.symm
  | asked hhost => rw [hhost]; rfl
  | moved hhost => rw [hhost]; rfl

theorem Steps.host [Library] (hw : w.Furnished) (h : Steps w deeds w') :
    w'.host = w.host.map fun h => deeds.foldr Deed.onHost h := by
  induction h with
  | refl => exact Option.map_id'.symm
  | step hsteps hstep ih =>
    rw [hstep.host (hw.carries (hsteps.carries hw)), ih, Option.map_map]
    rfl

/-- The session that a moment is of. -/
theorem Moment.exists_session [Library] {host : Host} (m : Moment host) :
    ∃ session, m.world.host = some session := by
  obtain ⟨hintact, hhost⟩ := installed_intact host
  exact ⟨_, by rw [m.steps.host hintact.furnished, hhost, Option.map_some]⟩

/-- The cluster has answered the questions, and nothing else has changed it. -/
theorem cluster_foldr [Library] (deeds : List Deed) (h : Host) :
    (deeds.foldr Deed.onHost h).cluster =
      (ClusterRequest.putAll (questions deeds) h.cluster).2 := by
  induction deeds with
  | nil => rfl
  | cons d deeds ih =>
    rw [List.foldr_cons]
    cases d with
    | asked request =>
      have hquestions : questions (.asked request :: deeds) = questions deeds ++ [request] :=
        List.reverse_cons
      rw [hquestions, ClusterRequest.putAll_concat, ← ih]
      rfl
    | _ => exact ih

theorem namespaceOf_ne_empty (s : String) : namespaceOf s ≠ "" := by
  unfold namespaceOf
  split
  · decide
  · next h => exact Text.trim_ne_empty (Bool.eq_false_iff.2 h)

theorem namespace_foldr [Library] {h : Host} (hns : h.currentNamespace ≠ "") (deeds : List Deed) :
    (deeds.foldr Deed.onHost h).currentNamespace ≠ "" := by
  induction deeds with
  | nil => exact hns
  | cons d deeds ih =>
    rw [List.foldr_cons]
    cases d with
    | moved ns => exact namespaceOf_ne_empty ns
    | _ => exact ih

/-! ## Deeds and instances -/

/-- An instance has the state that it had, one that stays, or that which the deed gave it. -/
theorem Step.lookup [Library] {i : Instance} {state : InstanceState} (hw : w.Furnished)
    (h : Step w d w') (hi : w'.registry.lookup i = .ok state) :
    w.registry.lookup i = .ok state ∨ state.isFixed = true ∨
      d = .made i state ∨ d = .changed i state := by
  cases h.effect hw with
  | own hregistry _ =>
    rw [hregistry] at hi
    exact .inl hi
  | opened hopens =>
    rcases (hopens.lookup i state).1 hi with hi | ⟨_, -, rfl⟩ | ⟨-, rfl⟩
    · exact .inl hi
    · exact .inr (.inl rfl)
    · exact .inr (.inl rfl)
  | reached _ hadds | named _ hadds | extended _ _ _ hadds | detached hadds | closed _ _ hadds =>
    rcases hadds.lookup.1 hi with hi | ⟨-, rfl⟩
    · exact .inl hi
    · exact .inr (.inl rfl)
  | recorded _ | dropped _ | asked _ | moved _ => exact .inl hi
  | made _ _ =>
    rcases Registry.lookup_allocated_iff.1 hi with hi | ⟨rfl, rfl⟩
    · exact .inl hi
    · exact .inr (.inr (.inl rfl))
  | @changed j old new hold _ =>
    rw [Registry.lookup_update hold] at hi
    split at hi
    · next hj =>
      cases hi
      exact .inr (.inr (.inr (by rw [hj])))
    · exact .inl hi

/-- An instance keeps its state unless the deed changes it. -/
theorem Step.lookup_kept [Library] {i : Instance} {state : InstanceState} (hw : w.Furnished)
    (h : Step w d w') (hi : w.registry.lookup i = .ok state) (hd : ∀ new, d ≠ .changed i new) :
    w'.registry.lookup i = .ok state := by
  cases h.effect hw with
  | own hregistry _ => rwa [hregistry]
  | opened hopens => exact (hopens.lookup i state).2 (.inl hi)
  | reached _ hadds | named _ hadds | extended _ _ _ hadds | detached hadds | closed _ _ hadds =>
    exact hadds.lookup.2 (.inl hi)
  | recorded _ | dropped _ | asked _ | moved _ => exact hi
  | made _ _ => exact Registry.lookup_allocated_iff.2 (.inl hi)
  | @changed j old new hold _ =>
    have hne : i ≠ j := by
      rintro rfl
      exact hd new rfl
    rw [Registry.lookup_update hold, if_neg hne]
    exact hi

end

/-! ## Where the mark of all namespaces comes from -/

/-- A deed brought an object that says it lies in all namespaces. -/
def Starred (deeds : List Deed) : Prop :=
  ∃ i object, Object.namespaceName object = allNamespaces ∧
    (.made i (.object object) ∈ deeds ∨ .changed i (.object object) ∈ deeds)

/-- A namespace that may be named after some deeds. -/
def Proper (deeds : List Deed) (ns : String) : Prop :=
  ns ≠ "" ∧ (ns = allNamespaces → Starred deeds)

theorem Starred.cons {deeds : List Deed} (h : Starred deeds) (d : Deed) : Starred (d :: deeds) := by
  obtain ⟨i, object, hstar, hmem⟩ := h
  exact ⟨i, object, hstar, hmem.imp (List.mem_cons_of_mem d) (List.mem_cons_of_mem d)⟩

theorem Proper.cons {deeds : List Deed} {ns : String} (h : Proper deeds ns) (d : Deed) :
    Proper (d :: deeds) ns := ⟨h.1, fun hstar => (h.2 hstar).cons d⟩

/-- After some deeds, the mark of all namespaces is at hand only where a deed brought it. -/
structure World.Sound (w : World) (deeds : List Deed) : Prop where
  furnished : w.Furnished
  session : ∀ h, w.host = some h → h.currentNamespace ≠ ""
  object : ∀ i object, w.registry.lookup i = .ok (.object object) →
    Object.namespaceName object = allNamespaces → Starred deeds
  kept : ∀ i state ns, w.registry.lookup i = .ok state → state.namespace? = some ns →
    Proper deeds ns

section

variable {w w' : World} {d : Deed} {deeds earlier : List Deed} {ns : String}

/-- A session in all namespaces stands in one for single objects. -/
theorem defaultNamespace_proper {current : String} (h : current ≠ "") :
    defaultNamespace current ≠ "" ∧ defaultNamespace current ≠ allNamespaces := by
  unfold defaultNamespace
  split
  · decide
  · next hall => exact ⟨h, hall⟩

/-- An object lies in all namespaces only if it says so itself. -/
theorem World.Locates.proper {object : Json}
    (hw : ∀ session, w.host = some session → session.currentNamespace ≠ "")
    (h : w.Locates object ns) :
    ns ≠ "" ∧ (ns = allNamespaces → Object.namespaceName object = allNamespaces) := by
  cases h with
  | own hne => exact ⟨hne, id⟩
  | session hhost _ =>
    have hdefault := defaultNamespace_proper (hw _ hhost)
    exact ⟨hdefault.1, fun hstar => absurd hstar hdefault.2⟩

theorem World.Sound.addresses (h : w.Sound deeds) (hns : w.Addresses ns) : Proper deeds ns := by
  cases hns with
  | session hhost =>
    have hdefault := defaultNamespace_proper (h.session _ hhost)
    exact ⟨hdefault.1, fun hstar => absurd hstar hdefault.2⟩
  | written hne hall => exact ⟨hne, fun hstar => absurd hstar hall⟩
  | object hi hne => exact ⟨hne, h.object _ _ hi⟩
  | kept hi hns => exact h.kept _ _ _ hi hns

theorem Step.sound [Library] (h : w.Sound deeds) (hstep : Step w d w') (hfounded : d.Founded w) :
    w'.Sound (d :: deeds) where
  furnished := h.furnished.carries (hstep.carries h.furnished)
  session session' hhost := by
    rw [hstep.host h.furnished, Option.map_eq_some_iff] at hhost
    obtain ⟨session, hsession, rfl⟩ := hhost
    exact namespace_foldr (h.session session hsession) [d]
  object i object hi hstar := by
    rcases hstep.lookup h.furnished hi with hold | hfixed | rfl | rfl
    · exact (h.object i object hold hstar).cons d
    · cases hfixed
    · exact ⟨i, object, hstar, .inl List.mem_cons_self⟩
    · exact ⟨i, object, hstar, .inr List.mem_cons_self⟩
  kept i state ns hi hns := by
    rcases hstep.lookup h.furnished hi with hold | hfixed | rfl | rfl
    · exact (h.kept i state ns hold hns).cons d
    · rw [InstanceState.namespace?_of_isFixed hfixed] at hns
      cases hns
    · exact (h.addresses (hfounded.addresses ns hns)).cons _
    · exact (h.addresses (hfounded.addresses ns hns)).cons _

theorem Course.sound [Library] (h : w.Sound []) (hcourse : Course w deeds w') : w'.Sound deeds := by
  induction hcourse with
  | refl => exact h
  | step _ hstep hfounded ih => exact hstep.sound ih hfounded

/-- Every deed of a row names a namespace that may be named then. -/
theorem Course.proper [Library] (h : w.Sound []) (hcourse : Course w deeds w')
    (hsuffix : d :: earlier <:+ deeds) (hns : d.namespace? = some ns) : Proper earlier ns := by
  induction hcourse with
  | refl => simp at hsuffix
  | step hbefore _ hfounded ih =>
    rcases List.suffix_cons_iff.1 hsuffix with heq | hsuffix
    · cases heq
      exact (hbefore.sound h).addresses (hfounded.addresses ns hns)
    · exact ih hsuffix

end

/-! ## Calls on objects -/

/-- At most one question was asked, in the namespace that an object lies in. -/
def World.AsksIn [Library] (w : World) (object : Json) (w' : World) : Prop :=
  w'.host = w.host ∨ ∃ session request ns, w.host = some session ∧
    w'.host = some { session with cluster := request.answered session.cluster } ∧
    ClusterRequest.namespace? request = some ns ∧ w.Locates object ns

section

variable [Library] {α : Type} {w w₁ w' : World} {object : Json} {ns : String}

theorem World.AsksIn.refl (w : World) (object : Json) : w.AsksIn object w := .inl rfl

theorem World.AsksIn.keep (h : w.AsksIn object w₁) (hhost : w'.host = w₁.host) :
    w.AsksIn object w' := by
  unfold AsksIn
  rwa [hhost]

theorem askCluster_asksIn {operation : Cluster → Except Fault α × Cluster}
    (request : ClusterRequest) (h : ∀ c, (operation c).2 = request.answered c)
    (hnames : request.namespace? = some ns) (hns : w.Locates object ns) :
    (Run.askCluster operation).Ends w (fun _ => w.AsksIn object) (w.AsksIn object) := by
  have hasked : ∀ session, w.host = some session → w.AsksIn object
      { w with host := some { session with cluster := (operation session.cluster).2 } } := by
    intro session hw
    rw [h]
    exact .inr ⟨session, request, ns, hw, rfl, hnames, hns⟩
  exact .askCluster (fun session _ hw _ => hasked session hw)
    (fun session _ hw _ => hasked session hw) (.refl w object)

theorem newInstanceOf_asksIn (h : w.AsksIn object w₁) (name : String) (state : InstanceState) :
    (Run.newInstanceOf name state).Ends w₁ (fun _ => w.AsksIn object) (w.AsksIn object) := by
  refine (newInstanceOf_ends name state w₁).mono (fun i w₂ hadds => h.keep ?_) fun w₂ hw => ?_
  · rw [hadds.world]
  · rwa [hw]

theorem treeValue_asksIn (j : Json) :
    (treeValue j).Ends w (fun _ => w.AsksIn object) (w.AsksIn object) := by
  refine .bind (P := fun _ w' => w' = w) (.host (fun _ _ => rfl) (.refl w object)) ?_
  rintro session w rfl
  obtain ⟨v, w', hbuild, hgrown⟩ := build_grows session.numberMode j w
  refine .of_ok ((fromJson_eq_build session.numberMode j w).trans hbuild) (.inl ?_)
  rw [hgrown.rest]

theorem fetch_asksIn (r : Resource) {q : Query} (hq : q.scope = .named ns)
    (hns : w.Locates object ns) :
    (fetch r q).Ends w (fun _ => w.AsksIn object) (w.AsksIn object) := by
  refine .bind_same (.currentNamespace w) (fun current _ => ?_) (.refl w object)
  have hnames : (ClusterRequest.list r (listNamespace current q.scope) q.options).namespace? =
      some ns := by
    rw [hq]
    rfl
  exact .bind (askCluster_asksIn _ (fun _ => rfl) hnames hns) fun _ _ h => .pure h

namespace Objects

/-- The pods of an object are listed in the namespace that it lies in. -/
theorem pods_asksIn (r : Resource) :
    (pods r object).Ends w (fun _ => w.AsksIn object) (w.AsksIn object) := by
  refine .bind_same (addressOf_ends r object w) ?_ (.refl w object)
  rintro ⟨ns, name⟩ hns
  refine .lift_bind (fun labels _ => ?_) (.refl w object)
  split
  · exact .refuse (.refl w object)
  · refine .liftRefusal_bind (fun q hq => ?_) (.refl w object)
    refine .bind (fetch_asksIn .pod (podQuery_scope hq) hns) fun items w₁ h => ?_
    exact .bind (newInstanceOf_asksIn h _ _) fun _ _ h => .pure h

/-- A call on an object asks one question at most, and this names the namespace that the object
lies in. -/
theorem perform_asksIn (r : Resource) {i : Instance} (b : ObjectBody)
    (hi : w.registry.lookup i = .ok (.object object)) :
    (perform r i b).Ends w (fun _ => w.AsksIn object) (w.AsksIn object) := by
  have hobject : (objectOf i).run w = .ok object w := by
    rw [objectOf, Run.run_bind_of_ok (Run.run_lookup hi)]
    rfl
  refine .bind_of_ok hobject ?_
  cases b with
  | refresh =>
    refine .bind_same (addressOf_ends r object w) ?_ (.refl w object)
    rintro ⟨ns, name⟩ hns
    exact .bind (askCluster_asksIn (.get r ns name) (fun _ => rfl) rfl hns) fun fresh w₁ h =>
      .of_ok rfl (h.keep rfl)
  | create =>
    refine .bind_same (addressOf_ends r object w) ?_ (.refl w object)
    rintro ⟨ns, name⟩ hns
    exact .bind (askCluster_asksIn (.create r ns object) (fun _ => rfl) rfl hns)
      fun fresh w₁ h => .of_ok rfl (h.keep rfl)
  | delete =>
    refine .bind_same (addressOf_ends r object w) ?_ (.refl w object)
    rintro ⟨ns, name⟩ hns
    exact .bind (askCluster_asksIn (.delete r ns name) (fun _ => rfl) rfl hns)
      fun _ _ h => .pure h
  | logs =>
    refine .bind_same (addressOf_ends .pod object w) ?_ (.refl w object)
    rintro ⟨ns, name⟩ hns
    exact .bind (newInstanceOf_asksIn (.refl w object) _ _) fun _ _ h => .pure h
  | pods => exact .bind (pods_asksIn r) fun _ _ h => .pure h
  | labels => exact .bind (treeValue_asksIn _) fun _ _ h => .pure h
  | tree => exact .bind (treeValue_asksIn _) fun _ _ h => .pure h
  | _ => exact .pure (.refl w object)

end Objects

end

/-! ## Sessions -/

/-- A session after some chunks, whatever comes of each. -/
def evaluated [Library] (s : Session) (chunks : List Chunk) : Session :=
  chunks.foldl (fun s c => (s.evaluate c).2) s

theorem evaluated_does [Library] {w : World} (hw : w.Furnished) (chunks : List Chunk) :
    w.Does (evaluated ⟨w⟩ chunks).world := by
  induction chunks generalizing w with
  | nil => exact .refl w
  | cons c rest ih =>
    have hfirst := evaluate_does hw c
    exact hfirst.trans (ih (hfirst.furnished hw))

theorem evaluated_leads [Library] {w : World} (hw : w.Furnished) (chunks : List Chunk) :
    w.Leads (evaluated ⟨w⟩ chunks).world := (evaluated_does hw chunks).leads

theorem installed_sound {host : Host} (hns : host.currentNamespace ≠ "") :
    (Engine.installed host).Sound [] := by
  obtain ⟨hintact, hhost⟩ := installed_intact host
  have hnone : ∀ i state, (Engine.installed host).registry.lookup i ≠ .ok state := by
    intro i state hi
    rw [Registry.lookup_eq_ok, installed_slots] at hi
    simp at hi
  refine ⟨hintact.furnished, fun h hh => ?_, fun i object hi => absurd hi (hnone i _),
    fun i state _ hi => absurd hi (hnone i state)⟩
  cases hhost.symm.trans hh
  exact hns

/-- **Requests name a namespace.** Whatever chunks a session evaluates, a row of deeds leads
there. The cluster is what it becomes by answering their questions; whatever namespace a deed
names, in a question or in a list or a log that is kept, is not empty, and is the mark of all
namespaces only if a deed before brought an object with that mark as its own namespace. At every
moment, a call on an object asks one question at most, and this names one namespace: that of the
object, or else that of the session, with `default` for all of them. -/
theorem requests_name_namespaces [Library] (cluster : Cluster) (ns : String) (mode : NumberMode)
    (now : Timestamp) (files : FileTree) (environment : List (String × String))
    (chunks : List Chunk) :
    ∃ m : Moment ⟨cluster, namespaceOf ns, mode, now, files, environment⟩,
      m.world = (evaluated (Session.new cluster ns mode now files environment) chunks).world ∧
      m.world.host.map Host.cluster =
        some (ClusterRequest.putAll (questions m.deeds) cluster).2 ∧
      (∀ d earlier named, d :: earlier <:+ m.deeds → d.namespace? = some named →
        named ≠ "" ∧ (named = allNamespaces → Starred earlier)) ∧
      ∀ before : Moment ⟨cluster, namespaceOf ns, mode, now, files, environment⟩,
        ∀ r i b object, before.world.registry.lookup i = .ok (.object object) →
          (Objects.perform r i b).Ends before.world (fun _ => before.world.AsksIn object)
            (before.world.AsksIn object) ∧
          ∀ named, before.world.Locates object named →
            named ≠ "" ∧ (named = allNamespaces → Object.namespaceName object = allNamespaces) := by
  let host : Host := ⟨cluster, namespaceOf ns, mode, now, files, environment⟩
  have hns : host.currentNamespace ≠ "" := namespaceOf_ne_empty ns
  have hsound : (Engine.installed host).Sound [] := installed_sound hns
  have hstart : (Engine.installed host).host = some host := (installed_intact host).2
  obtain ⟨deeds, hcourse⟩ := evaluated_leads hsound.furnished chunks
  let m : Moment host := ⟨deeds, _, hcourse.steps⟩
  refine ⟨m, rfl, ?_, fun d earlier named hsuffix hnamed => hcourse.proper hsound hsuffix hnamed,
    fun before r i b object hi => ⟨Objects.perform_asksIn r b hi, fun named => ?_⟩⟩
  · rw [m.steps.host hsound.furnished, hstart, Option.map_some, Option.map_some, cluster_foldr]
  · refine World.Locates.proper fun session hsession => ?_
    rw [before.steps.host hsound.furnished, hstart] at hsession
    cases hsession
    exact namespace_foldr hns before.deeds

/-- `make_pod({image = "nginx", name = "web", namespace = "*"}):create()`. -/
def creatingEverywhere : Chunk :=
  .expr (.method (.call (.var "make_pod") [.table
    [.mk (.text "image") (.text "nginx"), .mk (.text "name") (.text "web"),
      .mk (.text "namespace") (.text "*")]]) "create" [])

open Library.Standard

/-- The namespaces of the objects that the store of a session holds. -/
def keptNamespaces (s : Session) : Option (List String) :=
  (s.world.host.bind fun h => h.cluster.kept?).map fun kept => kept.1.map Object.namespaceName

/-- A store creates an object in the namespace that it is asked for, and here this is the mark. -/
theorem created_everywhere :
    keptNamespaces (evaluated (Session.new (.store .empty) "default" .native default ⟨[]⟩ [])
      [creatingEverywhere]) = some ["*"] := by
  decide +kernel

end ClusterScript.Script
