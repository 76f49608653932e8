import ClusterScript.Proofs.Script.Traces.Resources

/-!
# Runs as acts

Whatever a script runs, the host sees a row of acts: each primitive action is
one deed, or none, a call on the handle of a log is one act, and the rest of
the interpreter only puts actions together. This holds however a run ends, for
calls nested to any depth. Where a deed names a namespace, the action before it
has found that at hand.

* `callAt_traced`, `runChunk_traced`: calls and chunks are traced.
* `evaluate_does`: evaluating a chunk takes the world of a session on by acts,
  and so leads from each of its moments to a later one.
-/
namespace ClusterScript.Script

/-! ## Calls of host functions -/

section

variable [Library] {call : Caller} (hcall : call.Traced)

open Run.Traced

include hcall

theorem performOn_does {w : World} (hw : w.Furnished) {m : BoundMethod}
    (hm : m ∈ w.registry.bound) {i : Instance} (hcls : m.cls = i.cls) (args : List Value) :
    (performOn call i m.method.body args).Ends w (fun _ => w.Does) w.Does := by
  cases hb : m.method.body with
  | selector b => exact Selectors.performOn_does hw hm hcls hb args
  | list r b => exact Lists.perform_traced hcall r i b args w hw
  | object r b => exact Objects.perform_traced r i b w hw
  | logs b => exact Logs.perform_traced i b args w hw
  | tally _ b => exact Tally.performOn_traced i b args w hw
  | objectCount _ => exact pure _ w hw

theorem performFor_traced (b : Body) (args : List Value) : (performFor call b args).Traced := by
  cases b with
  | objectCount cls => exact registry.bind fun _ => (lift _).bind fun _ => pure _
  | selector b => exact Selectors.performFor_traced hcall b args
  | tally cls b => exact Tally.performFor_traced cls b args
  | _ => exact pure _

theorem callMethod_does {w : World} (hw : w.Furnished) {m : BoundMethod}
    (hm : m ∈ w.registry.bound) (args : List Value) :
    (callMethod call m args).Ends w (fun _ => w.Does) w.Does := by
  unfold callMethod
  split
  · cases hreceiver : m.receiver? args with
    | none => exact refuse _ w hw
    | some receiver =>
      obtain ⟨i, rest⟩ := receiver
      have hcls := receiver?_cls hreceiver
      exact .liftRefusal_bind (fun _ _ => performOn_does hcall hw hm hcls rest) (.refl w)
  · exact ((liftRefusal _).bind fun _ => performFor_traced hcall _ _) w hw

omit hcall in
theorem pathArgument_traced (args : List Value) : (pathArgument args).Traced := by
  unfold pathArgument
  split
  · exact pure _
  · exact fault _

omit hcall in
theorem moveTo_traced (requested : Option String) : (do
    if let some s := requested then Run.setNamespace s
    return .text (← Run.currentNamespace) : Run Value).Traced := by
  have hshow : (do return .text (← Run.currentNamespace) : Run Value).Traced :=
    currentNamespace.bind fun _ => pure _
  cases requested with
  | none => exact hshow
  | some s => exact (setNamespace s).bind fun _ => hshow

omit hcall in
theorem switchNamespace_traced (args : List Value) : (switchNamespace args).Traced := by
  unfold switchNamespace
  split
  · exact moveTo_traced none
  · exact moveTo_traced none
  · refine (lift _).bind fun text => ?_
    cases text with
    | some s => exact moveTo_traced (some s)
    | none => exact (refuse _).bind moveTo_traced
  · exact (refuse _).bind moveTo_traced

omit hcall in
theorem importFile_traced {runChunk : Chunk → Run (List Value)}
    (hchunk : ∀ c, (runChunk c).Traced) (args : List Value) :
    (importFile runChunk args).Traced := by
  refine (pathArgument_traced args).bind fun path => host.bind fun session => ?_
  split
  · exact hchunk _
  · exact refuse _

theorem protect_traced (f : Value) (args : List Value) : (protect call f args).Traced := by
  refine tryCatch ((hcall f args).bind fun _ => pure _) fun e => ?_
  cases e with
  | overflowed => exact stop _
  | _ => exact pure _

theorem printAll_traced : ∀ values : List Value, (printAll call values).Traced
  | [] => pure _
  | v :: rest => (display_traced hcall v).bind fun _ => (print _).bind fun _ =>
    (print _).bind fun _ => printAll_traced rest

theorem callEngine_traced (f : HostFunction) (args : List Value) :
    (callEngine call f args).Traced := by
  unfold callEngine
  split
  · exact (display_traced hcall _).bind fun _ => pure _
  · exact complain _
  · exact pure _
  · exact complain _
  · exact protect_traced hcall _ _
  · exact complain _
  · exact (printAll_traced hcall _).bind fun _ => (print _).bind fun _ => pure _
  · exact raise _
  · exact pure _

theorem callHost_traced {runChunk : Chunk → Run (List Value)}
    (hchunk : ∀ c, (runChunk c).Traced) (f : HostFunction) (args : List Value) :
    (callHost call runChunk f args).Traced := by
  cases f with
  | method id =>
    intro w hw
    refine .bind_of_ok Run.run_registry ?_
    split
    · next m hm => exact callMethod_does hcall hw (Array.mem_of_getElem? hm) args
    · exact pure _ w hw
  | selector kind =>
    exact (Selectors.blockArgument_traced args).bind fun block =>
      (Selectors.newSelector_traced hcall kind block).bind fun _ => pure _
  | list r =>
    intro w hw
    refine .bind ((queryOf_traced hcall args w hw).yields (queryOf_written args)) ?_
    rintro q w₁ ⟨hlead, hq⟩
    have hwritten := newList_does (w := w₁) r fun ns hns => .written (hq ns hns).1 (hq ns hns).2
    exact .bind (hwritten.mono (fun _ _ => hlead.trans) fun _ => hlead.trans) fun _ _ h => .pure h
  | object r => exact (Objects.find_traced r args).bind fun _ => pure _
  | makePod => exact (makePod_traced args).bind fun _ => pure _
  | setNamespace => exact (switchNamespace_traced args).bind fun _ => pure _
  | getenv =>
    exact ((pathArgument_traced args).bind fun _ => host.bind fun _ => pure _).bind fun _ => pure _
  | importFile => exact importFile_traced hchunk args
  | tostring => exact callEngine_traced hcall .tostring args
  | typeOf => exact callEngine_traced hcall .typeOf args
  | protectedCall => exact callEngine_traced hcall .protectedCall args
  | print => exact callEngine_traced hcall .print args
  | error => exact callEngine_traced hcall .error args
  | library name => exact callEngine_traced hcall (.library name) args

end

/-! ## The interpreter -/

namespace Locals

variable [Library]

open Run.Traced

theorem declare_traced (locals : Locals) (name : String) (v : Value) :
    (locals.declare name v).Traced := modifyGetOwn (fun _ => rfl) fun _ => rfl

theorem bind_traced : ∀ (params : List String) (args : List Value) (locals : Locals),
    (locals.bind params args).Traced
  | [], _, _ => pure _
  | p :: params, args, locals => (declare_traced locals p _).bind fun locals =>
    bind_traced params args.tail locals

theorem get_traced (locals : Locals) (name : String) : (locals.get name).Traced := by
  unfold get
  split
  · exact Run.Traced.get.bind fun _ => pure _
  · exact getIn _ _

theorem set_traced (locals : Locals) (name : String) (v : Value) :
    (locals.set name v).Traced := by
  unfold set
  split
  · exact modifyOwn (fun _ => rfl) fun _ => rfl
  · exact setIn _ _ _

end Locals

section

variable [Library] {call : Caller} (hcall : call.Traced)

open Run.Traced

theorem nestTables_traced : ∀ (n : Nat) (v : Value), (nestTables n v).Traced
  | 0, _ => pure _
  | n + 1, _ => (newTable _).bind fun _ => nestTables_traced n _

theorem newClosure_traced (c : Closure) : (newClosure c).Traced :=
  modifyGetOwn (fun _ => rfl) fun _ => rfl

theorem repeatFrom_traced {α : Type} {act : Int64 → Run (Option α)}
    (hact : ∀ i, (act i).Traced) : ∀ (n : Nat) (i : Int64), (repeatFrom act n i).Traced
  | 0, _ => pure _
  | n + 1, i => by
    refine (hact i).bind fun result => ?_
    cases result with
    | some r => exact pure _
    | none => exact repeatFrom_traced hact n (i + 1)

mutual

theorem results_traced (hcall : call.Traced) (locals : Locals) :
    ∀ e : Expr, (results call locals e).Traced
  | .nil | .bool _ | .int _ | .float _ | .text _ | .bytes _ => by
    simp only [results]
    exact pure _
  | .var name => by
    simp only [results]
    exact (Locals.get_traced locals name).bind fun _ => pure _
  | .list items => by
    simp only [results]
    exact (valuesOf_traced hcall locals items).bind fun _ => (newTable _).bind fun _ => pure _
  | .table entries => by
    simp only [results]
    exact (newTable _).bind fun id => (setEntries_traced hcall locals id entries).bind fun _ =>
      pure _
  | .nest depth inner => by
    simp only [results]
    exact (results_traced hcall locals inner).bind fun _ => (nestTables_traced _ _).bind fun _ =>
      pure _
  | .index object key => by
    simp only [results]
    exact (results_traced hcall locals object).bind fun _ =>
      (results_traced hcall locals key).bind fun _ => (index_traced hcall _ _).bind fun _ => pure _
  | .call function args => by
    simp only [results]
    exact (results_traced hcall locals function).bind fun _ =>
      (valuesOf_traced hcall locals args).bind fun _ => hcall _ _
  | .method object name args => by
    simp only [results]
    exact (results_traced hcall locals object).bind fun _ => (index_traced hcall _ _).bind fun _ =>
      (valuesOf_traced hcall locals args).bind fun _ => hcall _ _
  | .function params body => by
    simp only [results]
    exact (newClosure_traced _).bind fun _ => pure _
  | .equal a b => by
    simp only [results]
    exact (results_traced hcall locals a).bind fun _ =>
      (results_traced hcall locals b).bind fun _ => pure _
  | .not e => by
    simp only [results]
    exact (results_traced hcall locals e).bind fun _ => pure _
  | .length e => by
    simp only [results]
    exact (results_traced hcall locals e).bind fun _ => (length_traced hcall _).bind fun _ => pure _
  | .concat a b => by
    simp only [results]
    exact (results_traced hcall locals a).bind fun _ =>
      (results_traced hcall locals b).bind fun _ => (concat_traced _ _).bind fun _ => pure _

theorem valuesOf_traced (hcall : call.Traced) (locals : Locals) :
    ∀ es : List Expr, (valuesOf call locals es).Traced
  | [] => by
    simp only [valuesOf]
    exact pure _
  | e :: rest => by
    simp only [valuesOf]
    exact (results_traced hcall locals e).bind fun _ =>
      (valuesOf_traced hcall locals rest).bind fun _ => pure _

theorem setEntries_traced (hcall : call.Traced) (locals : Locals) (id : Nat) :
    ∀ entries : List Entry, (setEntries call locals id entries).Traced
  | [] => by
    simp only [setEntries]
    exact pure _
  | .mk key value :: rest => by
    simp only [setEntries]
    exact (results_traced hcall locals key).bind fun _ =>
      (results_traced hcall locals value).bind fun _ =>
      (assignIndex_traced _ _ _).bind fun _ => setEntries_traced hcall locals id rest

end

/-- A block goes on where no result was given. -/
theorem orElse_traced {rest : Run (Option (List Value))} (hrest : rest.Traced)
    (result : Option (List Value)) : (match result with
      | some r => Pure.pure (some r)
      | none => rest : Run (Option (List Value))).Traced := by
  cases result with
  | some r => exact pure _
  | none => exact hrest

theorem runBlock_traced (hcall : call.Traced) :
    ∀ (body : List Stmt) (locals : Locals), (runBlock call locals body).Traced
  | [], _ => by
    simp only [runBlock]
    exact pure _
  | .declare name value :: rest, locals => by
    simp only [runBlock]
    exact (results_traced hcall locals value).bind fun _ =>
      (Locals.declare_traced locals name _).bind fun locals => runBlock_traced hcall rest locals
  | .assign name value :: rest, locals => by
    simp only [runBlock]
    exact (results_traced hcall locals value).bind fun _ =>
      (Locals.set_traced locals name _).bind fun _ => runBlock_traced hcall rest locals
  | .assignIndex object key value :: rest, locals => by
    simp only [runBlock]
    exact (results_traced hcall locals object).bind fun _ =>
      (results_traced hcall locals key).bind fun _ =>
      (results_traced hcall locals value).bind fun _ =>
      (assignIndex_traced _ _ _).bind fun _ => runBlock_traced hcall rest locals
  | .ret [e] :: _, locals => by
    simp only [runBlock]
    exact (results_traced hcall locals e).bind fun _ => pure _
  | .ret [] :: _, locals => by
    simp only [runBlock]
    exact (valuesOf_traced hcall locals _).bind fun _ => pure _
  | .ret (_ :: _ :: _) :: _, locals => by
    simp only [runBlock]
    exact (valuesOf_traced hcall locals _).bind fun _ => pure _
  | .run e :: rest, locals => by
    simp only [runBlock]
    exact (results_traced hcall locals e).bind fun _ => runBlock_traced hcall rest locals
  | .raise e :: _, locals => by
    simp only [runBlock]
    exact (results_traced hcall locals e).bind fun _ => raise _
  | .branch condition yes no :: rest, locals => by
    simp only [runBlock]
    have hrest := orElse_traced (runBlock_traced hcall rest locals)
    refine (results_traced hcall locals condition).bind fun _ => ?_
    split
    · exact (runBlock_traced hcall yes locals).bind hrest
    · exact (runBlock_traced hcall no locals).bind hrest
  | .loop name count body :: rest, locals => by
    simp only [runBlock]
    have hbody := fun i => (Locals.declare_traced locals name (.int i)).bind fun locals =>
      runBlock_traced hcall body locals
    exact (repeatFrom_traced hbody count 1).bind
      (orElse_traced (runBlock_traced hcall rest locals))

theorem runChunk_traced (hcall : call.Traced) (c : Chunk) : (runChunk call c).Traced := by
  unfold runChunk
  split
  · exact results_traced hcall [] _
  · split
    · exact (runBlock_traced hcall _ []).bind fun _ => pure _
    · exact fault _

/-- Calls are traced, however deep they may nest. -/
theorem callAt_traced : ∀ depth : Nat, Caller.Traced (callAt depth)
  | 0 => fun _ _ => stop _
  | depth + 1 => fun f args => by
    have hdepth := callAt_traced depth
    unfold callAt
    split
    · exact Run.Traced.get.bind fun _ => (Locals.bind_traced _ _ _).bind fun _ =>
        (runBlock_traced hdepth _ _).bind fun _ => pure _
    · exact callHost_traced hdepth (runChunk_traced hdepth) _ _
    · exact complain _

end

/-! ## Sessions -/

section

variable [Library]

theorem faultOfHalt_traced (e : Halt) : (Session.faultOfHalt e).Traced := by
  cases e with
  | raised v => exact faultOf_traced (callAt_traced maxDepth) v
  | exhausted => exact .pure _
  | overflowed => exact .pure _

/-- What a session performs is done by acts. -/
theorem perform_does {α : Type} {act : Run α} {w : World} (hact : act.Traced)
    (hw : w.Furnished) : w.Does (Session.perform ⟨w⟩ act).2.world := by
  let guarded : Run (Except Fault α) :=
    tryCatch (do return .ok (← act)) fun h => do return .error (← Session.faultOfHalt h)
  have hguarded : guarded.Traced :=
    Run.Traced.tryCatch (hact.bind fun _ => .pure _) fun e =>
      (faultOfHalt_traced e).bind fun _ => .pure _
  have hends := hguarded w hw
  cases hrun : guarded.run w with
  | ok result w' =>
    have hperform : Session.perform ⟨w⟩ act = (result, ⟨w'⟩) := by
      simp only [Session.perform]
      rw [hrun]
    rw [hperform]
    exact hends.ok result w' hrun
  | error e w' =>
    have hperform : Session.perform ⟨w⟩ act = (.error .overflow, ⟨w'⟩) := by
      simp only [Session.perform]
      rw [hrun]
    rw [hperform]
    exact hends.error e w' hrun

/-- Evaluating a chunk is done by acts, whether it fails or not. -/
theorem evaluate_does {w : World} (hw : w.Furnished) (c : Chunk) :
    w.Does (Session.evaluate ⟨w⟩ c).2.world :=
  perform_does (runChunk_traced (callAt_traced maxDepth) c) hw

namespace Moment

variable {host : Host}

/-- More deeds lead from one moment to another. -/
def Later (m m' : Moment host) : Prop :=
  ∃ deeds, Steps m.world deeds m'.world ∧ m'.deeds = deeds ++ m.deeds

/-- What deeds lead to is a later moment. -/
theorem of_leads (m : Moment host) {w : World} (h : m.world.Leads w) :
    ∃ m' : Moment host, m.Later m' ∧ m'.world = w := by
  obtain ⟨deeds, hcourse⟩ := h
  exact ⟨⟨_, w, m.steps.trans hcourse.steps⟩, ⟨_, hcourse.steps, rfl⟩, rfl⟩

theorem Later.carries {m m' : Moment host} (h : m.Later m') :
    m.world.registry.Carries m'.world.registry := by
  obtain ⟨deeds, hsteps, -⟩ := h
  exact hsteps.carries m.furnished

/-- Evaluating a chunk leads to a later moment, whether it fails or not. -/
theorem evaluate_later (m : Moment host) (c : Chunk) :
    ∃ m' : Moment host, m.Later m' ∧ m'.world = (Session.evaluate ⟨m.world⟩ c).2.world :=
  m.of_leads (evaluate_does m.furnished c).leads

end Moment

end

end ClusterScript.Script