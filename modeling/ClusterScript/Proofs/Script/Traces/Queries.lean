import ClusterScript.Proofs.Script.Traces.Operations

/-!
# Selectors and queries as acts

A block that is run for a selector is traced as its calls are. Where a query
names a namespace, that is a proper one, so what is asked with the query is
asked where a namespace was found at hand.

* `queryOf_traced`, `queryOf_written`: reading the arguments of a query.
* `fetch_does`: asking the cluster.
-/
namespace ClusterScript.Script

open Selector (Kind)

section

variable [Library] {call : Caller} (hcall : call.Traced)

open Run.Traced

namespace Selectors

theorem blockArgument_traced (args : List Value) : (blockArgument args).Traced := by
  unfold blockArgument
  split
  · split
    · exact pure _
    · exact refuse _
  · exact refuse _

/-- A collector can always be opened. -/
theorem openCollector_opens {w : World} (hw : w.Furnished) (kind : Kind) :
    ∃ collector list known w', (openCollector kind).run w = .ok (collector, list) w' ∧
      w.Opens kind collector list known w' ∧ Step w (.opened kind collector known) w' := by
  obtain ⟨id, c, hid, -⟩ := hw.key .label
  obtain ⟨cls, hcls⟩ := hw.collector kind
  have hgives : (openCollector kind).Gives w fun opened w' =>
      ∃ known, w.Opens kind opened.1 opened.2 known w' := openCollector_ends hid hcls
  obtain ⟨⟨collector, list⟩, w', hrun, known, hopens⟩ := hgives.exists_ok
  exact ⟨collector, list, known, w', hrun, hopens,
    .opened hrun ((hopens.lookup _ _).2 (.inr (.inr ⟨rfl, rfl⟩)))⟩

theorem closeSelector_does {w : World} {collector : Instance} {kind : Kind} {list : Nat}
    {known : List (String × Instance)}
    (hi : w.registry.lookup collector = .ok (.collector kind list known)) :
    (closeSelector kind list).Ends w (fun _ => w.Does) w.Does := by
  have h := closeSelector_ends kind list w
  refine ⟨fun closed w' hrun => ?_, fun e w' hrun => h.error e w' hrun ▸ .refl w⟩
  obtain ⟨-, selector, hv, -⟩ := h.ok closed w' hrun
  obtain ⟨v, text⟩ := closed
  cases hv
  exact .of_step (.closed hi hrun) rfl rfl rfl

include hcall

/-- A collector is opened, and then its block has its way. -/
theorem newCollector_traced (kind : Kind) (block : Value) :
    (newCollector call kind block).Traced := by
  rw [newCollector_eq]
  intro w hw
  obtain ⟨collector, list, known, w₁, hrun, -, hstep⟩ := openCollector_opens hw kind
  refine .bind_of_ok hrun ?_
  exact ((callFromHost_traced hcall _ _).bind fun _ => pure _).ends (.of_step hstep rfl rfl rfl) hw

/-- After its block has returned, a selector is made of what the collector holds. -/
theorem newSelector_traced (kind : Kind) (block : Value) :
    (newSelector call kind block).Traced := by
  rw [newSelector_eq]
  intro w hw
  obtain ⟨collector, list, known, w₁, hrun, hopens, hstep⟩ := openCollector_opens hw kind
  have hw₁ := (World.Does.of_step hstep rfl rfl rfl).furnished hw
  have hi : w₁.registry.lookup collector = .ok (.collector kind list known) :=
    (hopens.lookup _ _).2 (.inr (.inr ⟨rfl, rfl⟩))
  refine .bind_of_ok hrun (.bind (P := fun _ w' => w₁.Does w') ?_ ?_)
  · exact (callFromHost_traced hcall _ _ w₁ hw₁).mono (fun _ _ h => h)
      fun _ h => (World.Does.of_step hstep rfl rfl rfl).trans h
  · intro _ w₂ hlead
    have hi₂ := (hlead.carries hw₁).lookup_fixed rfl hi
    have hstart := (World.Does.of_step hstep rfl rfl rfl).trans hlead
    exact (closeSelector_does hi₂).mono (fun _ _ => hstart.trans) fun _ => hstart.trans

omit hcall in
theorem performOn_traced (i : Instance) {b : SelectorBody} (hb : ∀ operator, b ≠ .compare operator)
    (args : List Value) : (performOn i b args).Traced := by
  cases b with
  | compare operator => exact absurd rfl (hb operator)
  | makeKey wanted => exact (makeKey_traced i wanted args).bind fun _ => pure _
  | newKey _ => exact pure _
  | newCollector _ => exact pure _
  | newSelector _ => exact pure _
  | collectorText =>
    refine (lookup i).bind fun state => ?_
    cases state with
    | collector kind list known =>
      exact registry.bind fun _ => (liftRefusal _).bind fun _ => pure _
    | _ => exact notFound _
  | keyText =>
    refine (lookup i).bind fun state => ?_
    cases state with
    | key path sink => exact pure _
    | _ => exact notFound _
  | _ =>
    refine (lookup i).bind fun state => ?_
    cases state with
    | selector expressions rendered => exact pure _
    | _ => exact notFound _

omit hcall in
/-- A method of the class of its receiver. -/
theorem performOn_does {w : World} (hw : w.Furnished) {m : BoundMethod}
    (hm : m ∈ w.registry.bound) {i : Instance} (hcls : m.cls = i.cls) {b : SelectorBody}
    (hb : m.method.body = .selector b) (args : List Value) :
    (performOn i b args).Ends w (fun _ => w.Does) w.Does := by
  by_cases hcompare : ∃ operator, b = .compare operator
  · obtain ⟨operator, rfl⟩ := hcompare
    exact .bind (compare_does ⟨m, hm, hcls, hb⟩ args) fun _ _ h => .pure h
  · exact performOn_traced i (fun operator h => hcompare ⟨operator, h⟩) args w hw

theorem performFor_traced (b : SelectorBody) (args : List Value) :
    (performFor call b args).Traced := by
  cases b with
  | newKey kind => exact (newDetachedKey_traced kind args).bind fun _ => pure _
  | newCollector kind =>
    exact (blockArgument_traced args).bind fun block =>
      (newCollector_traced hcall kind block).bind fun _ => pure _
  | newSelector kind =>
    exact (blockArgument_traced args).bind fun block =>
      (newSelector_traced hcall kind block).bind fun _ => pure _
  | _ => exact pure _

end Selectors

include hcall

theorem evaluate_traced (kind : Kind) (block : Value) : (evaluate call kind block).Traced :=
  (Selectors.newSelector_traced hcall kind block).bind fun _ => pure _

omit hcall in
theorem sourceText_traced {eval : Kind → Value → Run String}
    (heval : ∀ kind block, (eval kind block).Traced) (kind : Kind) :
    ∀ source : Option (Query.Source Value), (Query.sourceText eval kind source).Traced
  | none => pure _
  | some (.literal _) => pure _
  | some (.block b) => heval kind b

omit hcall in
theorem addArgument_traced {eval : Kind → Value → Run String}
    (heval : ∀ kind block, (eval kind block).Traced) (parts : Query.Parts)
    (a : Query.Argument Value) : (Query.addArgument ⟨Run.refuse, eval⟩ parts a).Traced := by
  cases a with
  | glob text =>
    simp only [Query.addArgument]
    repeat' split
    all_goals first | exact refuse _ | exact pure _
  | params labels fields =>
    simp only [Query.addArgument]
    split
    · exact refuse _
    · exact (sourceText_traced heval _ _).bind fun _ =>
        (sourceText_traced heval _ _).bind fun _ => pure _
  | block b =>
    simp only [Query.addArgument]
    split
    · exact refuse _
    · exact (heval _ _).bind fun _ => (heval _ _).bind fun _ => pure _
  | sequence => exact refuse _
  | unsupported type => exact refuse _

omit hcall in
theorem addArguments_traced {eval : Kind → Value → Run String}
    (heval : ∀ kind block, (eval kind block).Traced) :
    ∀ (args : List (Query.Argument Value)) (parts : Query.Parts),
      (Query.addArguments ⟨Run.refuse, eval⟩ parts args).Traced
  | [], _ => pure _
  | a :: rest, parts => (addArgument_traced heval parts a).bind fun parts =>
    addArguments_traced heval rest parts

theorem queryOf_traced (args : List Value) : (queryOf call args).Traced := by
  refine Run.Traced.get.bind fun w => (lift _).bind fun decoded => ?_
  unfold Query.combine
  split
  · exact (refuse _).map
  · exact (addArguments_traced (evaluate_traced hcall) _ _).map

/-! ## Where queries look -/

section

omit hcall

theorem addArgument_written {eval : Kind → Value → Run String} {parts : Query.Parts}
    (h : parts.Written) (a : Query.Argument Value) :
    (Query.addArgument ⟨Run.refuse, eval⟩ parts a).Yields Query.Parts.Written := by
  have hrefuse : ∀ r, (Run.refuse r).Yields Query.Parts.Written := fun r => .fault _
  -- new selectors leave the glob as it is
  have hselectors : ∀ o, (Pure.pure { parts with selectors := some o } : Run _).Yields
      Query.Parts.Written := fun _ => .pure h
  cases a with
  | glob text =>
    simp only [Query.addArgument]
    split
    · exact hrefuse _
    · split
      · next g hg =>
        refine .pure ?_
        rintro _ ⟨rfl⟩
        exact Glob.read_written hg
      · exact hrefuse _
  | params labels fields =>
    simp only [Query.addArgument]
    split
    · exact hrefuse _
    · exact .after fun _ => .after fun _ => hselectors _
  | block b =>
    simp only [Query.addArgument]
    split
    · exact hrefuse _
    · exact .after fun _ => .after fun _ => hselectors _
  | sequence => exact hrefuse _
  | unsupported type => exact hrefuse _

theorem addArguments_written {eval : Kind → Value → Run String} :
    ∀ (args : List (Query.Argument Value)) {parts : Query.Parts}, parts.Written →
      (Query.addArguments ⟨Run.refuse, eval⟩ parts args).Yields Query.Parts.Written
  | [], _, h => .pure h
  | a :: rest, _, h => (addArgument_written h a).bind fun _ h => addArguments_written rest h

/-- A query names a proper namespace, or none. -/
theorem queryOf_written (args : List Value) :
    (queryOf call args).Yields fun q => q.scope.Written := by
  have hstart : Query.Parts.Written ⟨none, none⟩ := fun _ hg => by cases hg
  refine .after fun w => .after fun decoded => ?_
  unfold Query.combine
  split
  · exact .map (.fault _)
  · refine .map ?_
    exact fun w v w' hrun =>
      Query.ofParts_written (addArguments_written decoded hstart w v w' hrun)

omit [Library] in
/-- Where a list looks: in the namespace of its scope, or of the session. -/
theorem listNamespace_addresses {w : World} {session : Host} {scope : Scope} {ns : String}
    (hhost : w.host = some session) (hscope : ∀ ns, scope.namespace? = some ns → w.Addresses ns)
    (h : listNamespace session.currentNamespace scope = some ns) : w.Addresses ns := by
  cases scope with
  | everywhere => cases h
  | named _ =>
    cases h
    exact hscope ns rfl
  | current =>
    unfold listNamespace at h
    dsimp only at h
    split at h
    · cases h
    · next hall =>
      cases h
      have haddress : w.Addresses (defaultNamespace session.currentNamespace) := .session hhost
      rwa [defaultNamespace, if_neg hall] at haddress

theorem fetch_does {w : World} (r : Resource) {q : Query}
    (hq : ∀ ns, q.scope.namespace? = some ns → w.Addresses ns) :
    (fetch r q).Ends w (fun _ w' => w.Does w' ∧ w.Stays w') w.Does := by
  refine .bind_same (.currentNamespace w) ?_ (.refl w)
  rintro current ⟨session, hhost, rfl⟩
  exact .bind (askCluster_does (.list r _ q.options) (fun _ => rfl) rfl fun ns hns =>
    listNamespace_addresses hhost hq hns) fun _ _ h => .pure h

end

end

end ClusterScript.Script
