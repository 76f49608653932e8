import ClusterScript.Proofs.Script.Traces.Queries

/-!
# Lists, objects and logs as acts

A list asked again and an object found again are replaced as the last thing, by
what the cluster has sent; a call on the handle of a log is one act.
-/
namespace ClusterScript.Script

section

variable [Library] {call : Caller}

open Run.Traced

theorem newList_does {w : World} (r : Resource) {q : Query}
    (hq : ∀ ns, q.scope.namespace? = some ns → w.Addresses ns) :
    (newList r q).Ends w (fun _ => w.Does) w.Does := by
  refine .bind (fetch_does r hq) fun items w₁ h => ?_
  obtain ⟨hlead, hstays⟩ := h
  have hkept : ∀ ns, (InstanceState.list q items).namespace? = some ns → w₁.Addresses ns :=
    fun ns hns => (hq ns hns).stays hstays
  refine .bind ?_ fun _ _ h => .pure h
  exact (newInstanceOf_does _ rfl (.inr ⟨r, rfl⟩) hkept).mono
    (fun _ _ => hlead.trans) fun _ => hlead.trans

theorem newObject_traced (r : Resource) (object : Json) : (newObject r object).Traced :=
  (newInstanceOf _ rfl (.inl rfl) rfl).bind fun _ => pure _

theorem newObjects_traced (r : Resource) : ∀ objects : List Json, (newObjects r objects).Traced
  | [] => pure _
  | j :: rest => (newObject_traced r j).bind fun _ =>
    (newObjects_traced r rest).bind fun _ => pure _

theorem treeValue_traced (j : Json) : (treeValue j).Traced :=
  host.bind fun _ => Run.Traced.fromJson _ j

namespace Lists

theorem contents_traced (i : Instance) : (contents i).Traced := fun w _ =>
  contents_ends (fun _ _ _ => .refl w) (.refl w)

theorem wrap_traced (r : Resource) (choice : Option Json) : (wrap r choice).Traced := by
  cases choice with
  | none => exact pure _
  | some j => exact (newObject_traced r j).bind fun _ => pure _

theorem anyOf_traced (items : List Json) : (anyOf items).Traced :=
  registry.bind fun _ => pure _

/-- Asking again ends with replacing what the list holds, whatever its arguments did. -/
theorem refresh_traced (hcall : call.Traced) (r : Resource) (i : Instance) (args : List Value) :
    (refresh call r i args).Traced := by
  intro w hw
  refine .bind (P := fun found w' => w' = w ∧ w.registry.lookup i = .ok (.list found.1 found.2))
    (contents_ends (fun q items hi => ⟨rfl, hi⟩) (.refl w)) ?_
  rintro ⟨q, items⟩ w ⟨rfl, hi⟩
  have hreplace : ∀ q' w₁, w.Does w₁ →
      (∀ ns, q'.scope.namespace? = some ns → w₁.Addresses ns) →
      (do let items ← fetch r q'; Run.update i (.list q' items) : Run Unit).Ends w₁
        (fun _ => w.Does) w.Does := by
    intro q' w₁ hlead hq
    refine .bind ((fetch_does r hq).mono (fun _ _ h => h) fun _ => hlead.trans) ?_
    rintro items' w₂ ⟨hlead₂, hstays⟩
    exact update_does hw hi .list rfl (hlead.trans hlead₂) fun ns hns => (hq ns hns).stays hstays
  cases args with
  | nil => exact hreplace q w (.refl w) fun ns hns => .kept hi hns
  | cons v rest =>
    refine .bind ((queryOf_traced hcall _ w hw).yields (queryOf_written _)) ?_
    rintro q' w₁ ⟨hlead, hq⟩
    exact hreplace q' w₁ hlead fun ns hns => .written (hq ns hns).1 (hq ns hns).2

theorem itemAt_traced (r : Resource) (i : Instance) (args : List Value) :
    (itemAt r i args).Traced := by
  cases args with
  | nil => exact refuse _
  | cons v rest =>
    exact (liftRefusal _).bind fun index => (contents_traced i).bind fun _ => wrap_traced r _

theorem perform_traced (hcall : call.Traced) (r : Resource) (i : Instance) (b : ListBody)
    (args : List Value) : (perform call r i b args).Traced := by
  cases b with
  | refresh => exact (refresh_traced hcall r i args).bind fun _ => pure _
  | «at» => exact itemAt_traced r i args
  | _ =>
    refine (contents_traced i).bind fun found => ?_
    first
    | exact pure _
    | exact wrap_traced r _
    | exact (anyOf_traced _).bind fun _ => wrap_traced r _
    | exact (newObjects_traced r _).bind fun _ => (newSequence _).bind fun _ => pure _
    | exact (newSequence _).bind fun _ => pure _
    | exact host.bind fun _ => pure _
    | exact (treeValue_traced _).bind fun _ => pure _

end Lists

namespace Objects

omit [Library] in
theorem addressOf_ends (r : Resource) (object : Json) (w : World) :
    (addressOf r object).Ends w (fun address w' => w' = w ∧ w.Locates object address.1)
      (· = w) := by
  unfold addressOf
  split
  · exact .refuse rfl
  · split
    · next hne => exact .pure ⟨rfl, .own hne⟩
    · next hempty =>
      refine .bind_same (.currentNamespace w) ?_ rfl
      rintro current ⟨session, hhost, rfl⟩
      refine .liftRefusal (fun _ haddress => ⟨rfl, ?_⟩) rfl
      simp only [address] at haddress
      split at haddress
      · cases haddress
      · cases haddress
        rw [if_pos (Decidable.not_not.1 hempty)]
        exact .session hhost (Decidable.not_not.1 hempty)

omit [Library] in
theorem podQuery_scope {ns : String} {labels : List (String × String)} {q : Query}
    (h : podQuery ns labels = .ok q) : q.scope = .named ns := by
  unfold podQuery at h
  obtain ⟨es, -, h⟩ := bind_eq_ok h
  obtain ⟨text, -, h⟩ := bind_eq_ok h
  cases h
  rfl

theorem pods_does {w : World} (r : Resource) {i : Instance} {object : Json}
    (hi : w.registry.lookup i = .ok (.object object)) :
    (pods r object).Ends w (fun _ => w.Does) w.Does := by
  refine .bind_same (addressOf_ends r object w) ?_ (.refl w)
  rintro ⟨ns, name⟩ hlocates
  refine .lift_bind (fun labels _ => ?_) (.refl w)
  split
  · exact .refuse (.refl w)
  · refine .liftRefusal_bind (fun q hq => newList_does .pod ?_) (.refl w)
    rw [podQuery_scope hq]
    rintro _ ⟨rfl⟩
    exact hlocates.addresses hi

/-- An object that is asked for again, or created, gets what the cluster has. -/
theorem replace_ends {w : World} (r : Resource) {i : Instance} {object : Json} (hw : w.Furnished)
    (hi : w.registry.lookup i = .ok (.object object))
    {operation : String → String → Cluster → Except Fault Json × Cluster}
    (request : String → String → ClusterRequest)
    (h : ∀ ns name c, (operation ns name c).2 = (request ns name).answered c)
    (hlog : ∀ ns name, (Deed.asked (request ns name)).ofLog = false)
    (hnames : ∀ ns name, (request ns name).namespace? = some ns) :
    (do
      let (ns, name) ← addressOf r object
      let fresh ← Run.askCluster (operation ns name)
      Run.update i (.object fresh)
      return [.instance i] : Run (List Value)).Ends w (fun _ => w.Does) w.Does := by
  refine .bind_same (addressOf_ends r object w) ?_ (.refl w)
  rintro ⟨ns, name⟩ hlocates
  refine .bind (askCluster_does (request ns name) (h ns name) (hlog ns name) fun ns' hns => ?_) ?_
  · cases (hnames ns name).symm.trans hns
    exact hlocates.addresses hi
  · rintro fresh w₂ ⟨hlead, -⟩
    exact .bind (update_does hw hi .object rfl hlead fun _ h => by cases h) fun _ _ hlead =>
      .pure hlead

theorem perform_traced (r : Resource) (i : Instance) (b : ObjectBody) :
    (perform r i b).Traced := by
  intro w hw
  refine .bind (P := fun object w' => w' = w ∧ w.registry.lookup i = .ok (.object object)) ?_ ?_
  · refine .lookup_bind (fun state hstate => ?_) (.refl w)
    cases state with
    | object j => exact .pure ⟨rfl, hstate⟩
    | _ => exact .notFound (.refl w)
  · rintro object w ⟨rfl, hi⟩
    cases b with
    | refresh =>
      exact replace_ends r hw hi (.get r) (fun _ _ _ => rfl) (fun _ _ => rfl) fun _ _ => rfl
    | create =>
      exact replace_ends r hw hi (fun ns _ => .create r ns object) (fun _ _ _ => rfl)
        (fun _ _ => rfl) fun _ _ => rfl
    | delete =>
      refine .bind_same (addressOf_ends r object w) ?_ (.refl w)
      rintro ⟨ns, name⟩ hlocates
      refine .bind (askCluster_does (.delete r ns name) (fun _ => rfl) rfl ?_)
        fun _ _ h => .pure h.1
      rintro _ ⟨rfl⟩
      exact hlocates.addresses hi
    | logs =>
      refine .bind_same (addressOf_ends .pod object w) ?_ (.refl w)
      rintro ⟨ns, name⟩ hlocates
      refine .bind (newInstanceOf_does _ rfl (.inl rfl) ?_) fun _ _ h => .pure h
      rintro _ ⟨rfl⟩
      exact hlocates.addresses hi
    | pods => exact .bind (pods_does r hi) fun _ _ h => .pure h
    | labels => exact ((treeValue_traced _).bind fun _ => pure _) w hw
    | tree => exact ((treeValue_traced _).bind fun _ => pure _) w hw
    | _ => exact .pure (.refl w)

omit [Library] in
/-- What a getter is given names a proper namespace, or that of the session is taken. -/
theorem target_addresses {w : World} {session : Host} (hhost : w.host = some session)
    (s : String) : w.Addresses (target session.currentNamespace s).1 := by
  unfold target
  split
  · split
    · next hns => exact .written hns.2 hns.1
    · exact .session hhost
  · exact .session hhost

theorem find_traced (r : Resource) (args : List Value) : (find r args).Traced := by
  unfold find
  split
  · refine (lift _).bind fun text => ?_
    cases text with
    | some s =>
      intro w hw
      refine .bind_same (.currentNamespace w) ?_ (.refl w)
      rintro current ⟨session, hhost, rfl⟩
      refine .bind (askCluster_does (.get r _ _) (fun _ => rfl) rfl ?_) fun object w₁ h =>
        (newObject_traced r object).ends h.1 hw
      rintro _ ⟨rfl⟩
      exact target_addresses hhost s
    | none => exact refuse _
  · exact refuse _

end Objects

theorem makePod_traced (args : List Value) : (makePod args).Traced := by
  unfold makePod
  split
  · exact Run.Traced.get.bind fun _ => (lift _).bind fun _ => (liftRefusal _).bind fun _ =>
      newObject_traced .pod _
  · exact refuse _

namespace Logs

/-- A call on a handle is an act of its own. -/
theorem perform_traced (i : Instance) (b : LogBody) (args : List Value) :
    (perform i b args).Traced := fun w _ =>
  ⟨fun v _ hrun => ⟨_, .logs (.refl w) (.inl ⟨v, hrun⟩)⟩,
    fun e _ hrun => ⟨_, .logs (.refl w) (.inr ⟨e, hrun⟩)⟩⟩

end Logs

end

end ClusterScript.Script
