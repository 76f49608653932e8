import ClusterScript.Cluster.Decoding
import ClusterScript.Proofs.Script.Operands

/-!
# Queries by blocks

A query verb that is given a block runs it twice, for a label selector and
for a field selector. For a block of matches both passes succeed, and every
match is in the one selector that its key belongs to.

* `World.Gathers`: what a pass over some statements comes to.
* `evaluate_gives`: one pass.
* `block_splits`: what the cluster is asked.
-/
namespace ClusterScript.Script

open Selector (Kind Expression)

section

variable {w : World} {pass : Kind} {id depth : Nat} {q : String} {locals : Locals}
variable {block : List Match} {body : List Stmt} {found : List Expression}

open Run

/-! ## One pass -/

/-- However a pass begins later on, running some statements gathers these expressions in its
list. -/
def World.Gathers (w : World) (call : Caller) (q : String) (locals : Locals) (pass : Kind)
    (body : List Stmt) (found : List Expression) : Prop :=
  ∀ {base w₁ : World} {list cell : Nat}, w.Extends (fun _ => True) base →
    base.InPass pass list cell [] w₁ →
    (runBlock call ((q, cell) :: locals) body).Gives w₁ fun _ w' =>
      base.InPass pass list cell found w'

theorem World.Gathers.extends {call : Caller} {w' : World}
    (h : w.Gathers call q locals pass body found) (hw : w.Extends (fun _ => True) w') :
    w'.Gathers call q locals pass body found :=
  fun hext hpass => h (hw.trans hext) hpass

/-- A block of matches gathers the expressions of its kind. -/
theorem gathers_block [Library]
    (hblock : ∀ m ∈ block, m.OperandsFit (callAt (depth + 1)) w q locals) :
    w.Gathers (callAt (depth + 1)) q locals pass (block.map (Match.stmt q))
      (Match.selected pass block) := fun hext hpass =>
  runBlock_gives block hpass fun m hm => (hblock m hm).extends hext

/-- A collector is made with a key for each name. -/
theorem makeKnown_gives (sink : Sink) : ∀ (names : List String) {w : World}, w.Intact →
    (Selectors.makeKnown sink names).Gives w fun known w' => w.Unreported w' ∧
      (∀ name ∈ names, ∃ key, known.lookup name = some key ∧ w'.IsKey key .label [name] sink) ∧
      ∀ name, name ∉ names → known.lookup name = none
  | [], w, _ => .pure ⟨.refl w, by simp, fun _ _ => rfl⟩
  | name :: rest, w, hw => by
    refine .bind (newKeyInstance_gives hw .label [name] sink) ?_
    intro key w₁ hend
    obtain ⟨hw₁, hkey⟩ := hend
    refine .bind (makeKnown_gives sink rest (hw₁.intact hw)) ?_
    intro known w₂ hend
    obtain ⟨hw₂, hknown, hother⟩ := hend
    refine .pure ⟨hw₁.trans hw₂, fun n hn => ?_, fun n hn => ?_⟩
    · by_cases h : n = name
      · subst h
        exact ⟨key, List.lookup_cons_self, hkey.extends hw₂.ext⟩
      · obtain ⟨key', hlookup, hkey'⟩ := hknown n (by simpa [h] using hn)
        refine ⟨key', ?_, hkey'⟩
        rw [List.lookup_cons, beq_eq_false_iff_ne.2 h]
        exact hlookup
    · rw [List.mem_cons, not_or] at hn
      rw [List.lookup_cons, beq_eq_false_iff_ne.2 hn.1]
      exact hother n hn.2

/-- A call of a function of one parameter runs its body with a new local. -/
theorem run_callAt_closure [Library] {body : List Stmt} (v : Value)
    (h : w.closures[id]? = some ⟨[q], body, locals⟩) :
    (callAt (depth + 1) (.closure id) [v]).run w =
      (do return (← runBlock (callAt depth) ((q, w.cells.size) :: locals) body).getD []
        : Run (List Value)).run { w with cells := w.cells.push v } := by
  have : (callAt (depth + 1) (.closure id) [v]).run w = (do
      let c := w.closures[id]?.getD default
      let locals ← Locals.bind c.locals c.params [v]
      return (← runBlock (callAt depth) locals c.body).getD [] : Run (List Value)).run w := rfl
  rw [this, h]
  rfl

theorem newCollectorOf_gives {list : Nat} {known : List (String × Instance)} (hw : w.Intact)
    (hknown : ∀ name ∈ wellKnownKeys, ∃ key, known.lookup name = some key ∧
      w.IsKey key .label [name] (Selectors.sinkFor pass .label list))
    (hother : ∀ name, name ∉ wellKnownKeys → known.lookup name = none) :
    (newInstanceOf (collectorClass pass) (.collector pass list known)).Gives w fun i w' =>
      w.Unreported w' ∧ w'.IsCollector i pass list := by
  obtain ⟨cls, hoffers⟩ := hw.collector pass
  refine (newInstanceOf_gives hoffers.id _).weaken fun i w₁ hend => ?_
  obtain ⟨rfl, hw₁, hstate⟩ := hend
  refine ⟨hw₁, hoffers.extends hw₁.ext.restrict, known, hstate, ?_, hother⟩
  intro name hname
  obtain ⟨key, hlookup, hkey⟩ := hknown name hname
  exact ⟨key, hlookup, hkey.extends hw₁.ext⟩

/-- A block that is called with a collector whose list is empty runs its body in a pass. -/
theorem callBlock_enters [Library] (depth : Nat) {i : Instance} {list : Nat} (hw : w.Intact)
    (hi : w.IsCollector i pass list) (hlist : w.registry.recordings[list]? = some [])
    (hclosure : w.closures[id]? = some ⟨[q], body, locals⟩) :
    ∃ w₁, w.InPass pass list w.cells.size [] w₁ ∧
      (callAt (depth + 1) (.closure id) [.instance i]).run w =
        (do return (← runBlock (callAt depth) ((q, w.cells.size) :: locals) body).getD []
          : Run (List Value)).run w₁ := by
  have hext : w.Extends (fun _ => True) { w with cells := w.cells.push (.instance i) } :=
    .pushCell w _
  exact ⟨_, ⟨hext, hw.extends hext.restrict, ⟨i, by simp, hi.extends hext⟩, hlist⟩,
    run_callAt_closure _ hclosure⟩

theorem callBlock_gives [Library] {i : Instance} {list : Nat} (hw : w.Intact)
    (hi : w.IsCollector i pass list) (hlist : w.registry.recordings[list]? = some [])
    (hclosure : w.closures[id]? = some ⟨[q], body, locals⟩)
    (hbody : w.Gathers (callAt depth) q locals pass body found) :
    (callAt (depth + 1) (.closure id) [.instance i]).Gives w fun _ w' =>
      w.InPass pass list w.cells.size found w' := by
  obtain ⟨w₁, hpass, hrun⟩ := callBlock_enters depth hw hi hlist hclosure
  exact Ends.of_run_eq (.bind (hbody (.refl w) hpass) fun _ _ h => .pure h) hrun

/-- A new collector is given to its block with an empty list. -/
theorem newCollector_opens (hw : w.Intact) (call : Caller) (pass : Kind) (block : Value) :
    ∃ i list w₁, w.Extends (fun _ => True) w₁ ∧ w₁.Intact ∧ w₁.IsCollector i pass list ∧
      w₁.registry.recordings[list]? = some [] ∧
      (Selectors.newCollector call pass block).run w =
        (do
          let _ ← callFromHost call block [.instance i]
          return (i, list) : Run (Instance × Nat)).run w₁ := by
  let list := w.registry.recordings.size
  let w₁ : World := { w with registry := w.registry.newRecording.2 }
  have hext₁ : w.Extends (fun _ => True) w₁ := .ofRegistry w (w.registry.recordings_extends _)
  have hw₁ : w₁.Intact := hw.extends hext₁.restrict
  have hlist : w₁.registry.recordings[list]? = some [] := by
    simp [w₁, list, Registry.newRecording]
  have hrun : (Selectors.newCollector call pass block).run w = (do
      let known ← Selectors.makeKnown (Selectors.sinkFor pass .label list) wellKnownKeys
      let collector ← newInstanceOf (collectorClass pass) (.collector pass list known)
      let _ ← callFromHost call block [.instance collector]
      return (collector, list) : Run (Instance × Nat)).run w₁ := rfl
  obtain ⟨known, w₂, hmake, hw₂, hknown, hother⟩ :=
    (makeKnown_gives (Selectors.sinkFor pass .label list) wellKnownKeys hw₁).exists_ok
  obtain ⟨i, w₃, hnew, hw₃, hi⟩ :=
    (newCollectorOf_gives (hw₂.intact hw₁) hknown hother).exists_ok
  have hmade := hw₂.trans hw₃
  refine ⟨i, list, w₃, hext₁.trans hmade.ext, hmade.intact hw₁, hi, ?_, ?_⟩
  · rw [hmade.recordings, hlist]
  · rw [hrun, run_bind_of_ok hmake, run_bind_of_ok hnew]

/-- A block that is run on a new collector leaves it with the expressions of its kind. -/
theorem newCollector_gives [Library] (hw : w.Intact)
    (hclosure : w.closures[id]? = some ⟨[q], body, locals⟩)
    (hbody : w.Gathers (callAt depth) q locals pass body found) :
    (Selectors.newCollector (callAt (depth + 1)) pass (.closure id)).Gives w fun p w' =>
      w.Extends (fun _ => True) w' ∧ w'.Intact ∧
        w'.registry.recordings[p.2]? = some found := by
  obtain ⟨i, list, w₁, hext, hw₁, hi, hlist, hrun⟩ :=
    newCollector_opens hw (callAt (depth + 1)) pass (.closure id)
  refine Ends.of_run_eq ?_ hrun
  have hcall := callBlock_gives hw₁ hi hlist (hext.closures _ _ hclosure) (hbody.extends hext)
  exact .bind (hcall.tryCatch _) fun _ w' h => .pure ⟨hext.trans h.ext, h.intact, h.recorded⟩

/-- No matcher of fields checks for presence, which has no field terms. -/
theorem fieldTerms_of_matcher {matcher : String} {e : Expression}
    (h : (matcher, e.operator) ∈ Selectors.fieldMatchers) :
    ∃ terms, e.fieldTerms = .ok terms := by
  have hcompares : ∀ p ∈ Selectors.fieldMatchers, Expression.comparison? p.2 ≠ none := by decide
  obtain ⟨c, hc⟩ := Option.ne_none_iff_exists'.1 (hcompares _ h)
  refine ⟨e.values.map fun v => ⟨e.key, c, v⟩, ?_⟩
  rw [Expression.fieldTerms, hc]

theorem exists_allFieldTerms {es : List Expression}
    (h : ∀ e ∈ es, ∃ terms, e.fieldTerms = .ok terms) :
    ∃ terms, Selector.allFieldTerms es = .ok terms := by
  induction es with
  | nil => exact ⟨[], rfl⟩
  | cons e rest ih =>
    obtain ⟨⟨terms, hterms⟩, hrest⟩ := List.forall_mem_cons.1 h
    obtain ⟨more, hmore⟩ := ih hrest
    refine ⟨terms ++ more, ?_⟩
    rw [Selector.allFieldTerms, hterms, hmore]
    rfl

/-- Expressions have a selector if those that are for fields have field terms. -/
theorem render_ok (kind : Kind) {es : List Expression}
    (h : kind = .field → ∀ e ∈ es, ∃ terms, e.fieldTerms = .ok terms) :
    ∃ text, Selector.render kind es = .ok text := by
  cases kind with
  | label => exact ⟨_, rfl⟩
  | field =>
    obtain ⟨terms, hterms⟩ := exists_allFieldTerms (h rfl)
    refine ⟨Text.join "," (terms.map Selector.FieldTerm.text), ?_⟩
    rw [Selector.render, hterms]
    rfl

theorem Match.mem_selected {kind : Kind} {e : Expression} (h : e ∈ Match.selected kind block) :
    ∃ m ∈ block, m.reach.kind = kind ∧ m.expression = e := by
  obtain ⟨m, hm, rfl⟩ := List.mem_map.1 h
  obtain ⟨hm, hkind⟩ := List.mem_filter.1 hm
  exact ⟨m, hm, of_decide_eq_true hkind, rfl⟩

/-- Every block of matches has both selectors. -/
theorem render_selected (kind : Kind) (block : List Match) :
    ∃ text, Selector.render kind (Match.selected kind block) = .ok text := by
  refine render_ok kind ?_
  rintro rfl e he
  obtain ⟨m, -, hkind, rfl⟩ := Match.mem_selected he
  have hmatcher := m.matcher_known
  rw [hkind] at hmatcher
  exact fieldTerms_of_matcher hmatcher

/-- Evaluating a block gives the selector of what it gathers. -/
theorem evaluate_gives [Library] {text : String} (hw : w.Intact)
    (hclosure : w.closures[id]? = some ⟨[q], body, locals⟩)
    (hbody : w.Gathers (callAt depth) q locals pass body found)
    (htext : Selector.render pass found = .ok text) :
    (evaluate (callAt (depth + 1)) pass (.closure id)).Gives w fun s w' =>
      s = text ∧ w.Extends (fun _ => True) w' ∧ w'.Intact := by
  refine .bind (P := fun p w' => p.2 = text ∧ w.Extends (fun _ => True) w' ∧ w'.Intact) ?_
    fun _ _ h => .pure h
  refine .bind (newCollector_gives hw hclosure hbody) ?_
  rintro ⟨collector, list⟩ w₁ ⟨hext, hw₁, hrecorded⟩
  have hrender : (liftRefusal (Selector.render pass (w₁.registry.recording list))).run w₁ =
      .ok text w₁ := by
    rw [Registry.recording, hrecorded, Option.getD_some, htext]
    rfl
  refine .bind_of_ok run_registry (.bind_of_ok hrender ?_)
  obtain ⟨cls, hcls⟩ := hw₁.selector pass
  refine .bind (newInstanceOf_gives hcls _) ?_
  intro i w₄ hend
  obtain ⟨-, hw₄, -⟩ := hend
  exact .pure ⟨rfl, hext.trans hw₄.ext, hw₄.intact hw₁⟩

/-- Every match is selected for one kind. -/
theorem Match.selected_perm (block : List Match) :
    (Match.selected .label block ++ Match.selected .field block).Perm
      (block.map (·.expression)) := by
  have hnot : (fun m : Match => decide (m.reach.kind = .field)) =
      fun m => !decide (m.reach.kind = .label) := by
    funext m
    cases m.reach.kind <;> rfl
  rw [Match.selected, Match.selected, ← List.map_append, hnot]
  exact (List.filter_append_perm _ block).map _

/-! ## Both passes -/

/-- A query by a block alone evaluates it for labels and then for fields. -/
theorem run_queryOf_block [Library] (call : Caller) (id : Nat) (w : World) :
    (queryOf call [.closure id]).run w = (do
      let labels ← evaluate call .label (.closure id)
      let fields ← evaluate call .field (.closure id)
      return ⟨.current, none, ⟨labels, fields⟩⟩ : Run Query).run w := by
  have hdecoded : (lift (queryArguments w.tables [.closure id])).run w =
      .ok [.block (.closure id)] w := rfl
  refine (run_bind_of_ok run_get).trans ((run_bind_of_ok hdecoded).trans ?_)
  simp [Query.combine, Query.addArguments, Query.addArgument, Query.ofParts]

/-- The query of a block has the selectors of what its two passes gather. -/
theorem queryOf_gives [Library] {inLabels inFields : List Expression} {labels fields : String}
    (hw : w.Intact) (hclosure : w.closures[id]? = some ⟨[q], body, locals⟩)
    (hinLabels : w.Gathers (callAt depth) q locals .label body inLabels)
    (hinFields : w.Gathers (callAt depth) q locals .field body inFields)
    (hlabels : Selector.render .label inLabels = .ok labels)
    (hfields : Selector.render .field inFields = .ok fields) :
    (queryOf (callAt (depth + 1)) [.closure id]).Gives w fun query w' =>
      query = ⟨.current, none, ⟨labels, fields⟩⟩ ∧ w.Extends (fun _ => True) w' ∧ w'.Intact := by
  refine Ends.of_run_eq ?_ (run_queryOf_block _ id w)
  refine .bind (evaluate_gives hw hclosure hinLabels hlabels) ?_
  intro _ w₁ hend
  obtain ⟨rfl, hext₁, hw₁⟩ := hend
  refine .bind (evaluate_gives hw₁ (hext₁.closures _ _ hclosure) (hinFields.extends hext₁)
    hfields) ?_
  intro _ w₂ hend
  obtain ⟨rfl, hext₂, hw₂⟩ := hend
  exact .pure ⟨rfl, hext₁.trans hext₂, hw₂⟩

theorem queryOf_block_gives [Library] {labels fields : String} (hw : w.Intact)
    (hclosure : w.closures[id]? = some ⟨[q], block.map (Match.stmt q), locals⟩)
    (hblock : ∀ m ∈ block, m.OperandsFit (callAt (depth + 1)) w q locals)
    (hlabels : Selector.render .label (Match.selected .label block) = .ok labels)
    (hfields : Selector.render .field (Match.selected .field block) = .ok fields) :
    (queryOf (callAt (depth + 2)) [.closure id]).Gives w fun query w' =>
      query = ⟨.current, none, ⟨labels, fields⟩⟩ ∧ w.Extends (fun _ => True) w' ∧ w'.Intact :=
  queryOf_gives hw hclosure (gathers_block hblock) (gathers_block hblock) hlabels hfields

/-- What the cluster of a session answers to a list request in the current namespace. -/
def Host.listed [Library] (session : Host) (r : Resource) (o : ListOptions) :
    Except Fault (List Json) × Cluster :=
  Cluster.list r (listNamespace session.currentNamespace .current) o session.cluster

/-- Without a filter of names, all that the cluster answers is found. -/
theorem fetch_asks [Library] {r : Resource} {session : Host} {o : ListOptions}
    (hhost : w.host = some session) :
    (fetch r ⟨.current, none, o⟩).Ends w
      (fun items w' => (session.listed r o).1 = .ok items ∧ w'.registry = w.registry ∧
        w'.host = some { session with cluster := (session.listed r o).2 })
      (fun w' => (∃ f, (session.listed r o).1 = .error f) ∧
        w'.host = some { session with cluster := (session.listed r o).2 }) := by
  let ns := listNamespace session.currentNamespace .current
  have hask : (askCluster (Cluster.list r ns o)).run w =
      (lift (session.listed r o).1).run
        { w with host := some { session with cluster := (session.listed r o).2 } } :=
    run_bind_of_ok (run_host hhost)
  refine Ends.of_run_eq ?_ (run_bind_of_ok (run_currentNamespace hhost))
  cases hanswer : (session.listed r o).1 with
  | error f =>
    rw [hanswer] at hask
    exact .bind (P := fun _ _ => False) (.of_error hask ⟨⟨f, rfl⟩, rfl⟩) fun _ _ => False.elim
  | ok items =>
    rw [hanswer] at hask
    refine .bind_of_ok hask ?_
    exact .pure ⟨congrArg _ (List.filter_eq_self.2 fun _ _ => rfl).symm, rfl, rfl⟩

/-- A list of all names asks the cluster once, and holds what it answers. -/
theorem newList_asks [Library] {r : Resource} {session : Host} {o : ListOptions} (hw : w.Intact)
    (hhost : w.host = some session) :
    (newList r ⟨.current, none, o⟩).Ends w
      (fun v w' => ∃ items i, (session.listed r o).1 = .ok items ∧ v = .instance i ∧
        w'.registry.lookup i = .ok (.list ⟨.current, none, o⟩ items) ∧
        w'.host = some { session with cluster := (session.listed r o).2 })
      (fun w' => (∃ f, (session.listed r o).1 = .error f) ∧
        w'.host = some { session with cluster := (session.listed r o).2 }) := by
  obtain ⟨cls, hcls⟩ := hw.list r
  refine .bind (fetch_asks hhost) ?_
  intro items w₁ hend
  obtain ⟨hitems, hregistry, hhost₁⟩ := hend
  rw [← hregistry] at hcls
  have hnew : (newInstanceOf r.listClass (.list ⟨.current, none, o⟩ items)).Ends w₁
      (fun i w' => w₁.Unreported w' ∧ w'.registry.lookup i = .ok (.list ⟨.current, none, o⟩ items))
      (fun w' => (∃ f, (session.listed r o).1 = .error f) ∧
        w'.host = some { session with cluster := (session.listed r o).2 }) :=
    (newInstanceOf_gives hcls _).mono (fun _ _ h => ⟨h.2.1, h.2.2⟩) fun _ => False.elim
  refine .bind hnew ?_
  intro i w₂ hend
  obtain ⟨hw₂, hlookup⟩ := hend
  exact .pure ⟨items, i, hitems, rfl, hlookup, hw₂.ext.host.trans hhost₁⟩

/-- **A block of matches splits into both selectors of a query.** Where the classes of selectors
are as a session has them, a query verb runs the block for labels and for fields without
failing. It asks the cluster once, with the matches of label keys as label selector and those of
field keys as field selector, both in the order of the block; every match is in one of them. The
verb fails only if the cluster does. -/
theorem block_splits [Library] (r : Resource) {session : Host} (hw : w.Intact)
    (hhost : w.host = some session)
    (hclosure : w.closures[id]? = some ⟨[q], block.map (Match.stmt q), locals⟩)
    (hblock : ∀ m ∈ block, m.OperandsFit (callAt (depth + 1)) w q locals) :
    ∃ labels fields,
      Selector.render .label (Match.selected .label block) = .ok labels ∧
      Selector.render .field (Match.selected .field block) = .ok fields ∧
      (Match.selected .label block ++ Match.selected .field block).Perm
        (block.map (·.expression)) ∧
      (callAt (depth + 3) (.host (.list r)) [.closure id]).Ends w
        (fun vs w' => ∃ items i, (session.listed r ⟨labels, fields⟩).1 = .ok items ∧
          vs = [.instance i] ∧
          w'.registry.lookup i = .ok (.list ⟨.current, none, ⟨labels, fields⟩⟩ items) ∧
          w'.host = some { session with cluster := (session.listed r ⟨labels, fields⟩).2 })
        (fun w' => (∃ f, (session.listed r ⟨labels, fields⟩).1 = .error f) ∧
          w'.host = some { session with cluster := (session.listed r ⟨labels, fields⟩).2 }) := by
  obtain ⟨labels, hlabels⟩ := render_selected .label block
  obtain ⟨fields, hfields⟩ := render_selected .field block
  refine ⟨labels, fields, hlabels, hfields, Match.selected_perm block, ?_⟩
  obtain ⟨query, w₁, hquery, rfl, hext, hw₁⟩ :=
    (queryOf_block_gives hw hclosure hblock hlabels hfields).exists_ok
  refine Ends.of_run_eq ?_ (run_bind_of_ok hquery)
  refine .bind (newList_asks hw₁ (hext.host.trans hhost)) ?_
  intro _ w₂ hend
  obtain ⟨items, i, hitems, rfl, hlookup, hhost₂⟩ := hend
  exact .pure ⟨items, i, hitems, rfl, hlookup, hhost₂⟩

/-- `q.team:eq("core")`, `q:label("example.com/tier"):is_in({"a", "b"})`,
`q:field("status.phase"):is_not("Failed")`, `q.spec.nodeName:equals("n1")`. -/
def mixedBlock : List Match :=
  [⟨.known "team", "eq", [.text "core"], ⟨"team", .equals, ["core"], by decide, by decide⟩,
      by decide, by decide, rfl⟩,
    ⟨.label "example.com/tier", "is_in", [.list [.text "a", .text "b"]],
      ⟨"example.com/tier", .isIn, ["a", "b"], by decide, by decide⟩, by decide, by decide, rfl⟩,
    ⟨.field "status.phase", "is_not", [.text "Failed"],
      ⟨"status.phase", .notEquals, ["Failed"], by decide, by decide⟩, by decide, by decide, rfl⟩,
    ⟨.path "spec" "nodeName" [], "equals", [.text "n1"],
      ⟨"spec.nodeName", .equals, ["n1"], by decide, by decide⟩,
      by decide, by decide, rfl⟩]

/-- A session with the block as its last closure. -/
def mixedWorld : World :=
  { Engine.installed default with
    closures := (Engine.installed default).closures.push
      ⟨["q"], mixedBlock.map (Match.stmt "q"), []⟩ }

open Library.Standard

/-- A list of pods by the block asks for these two selectors. -/
theorem block_splits_mixed :
    (callAt 3 (.host (.list .pod)) [.closure (Engine.installed default).closures.size]).Ends
      mixedWorld
      (fun _ w' => w'.host = some { (default : Host) with
        cluster := ((default : Host).listed .pod ⟨"team=core,example.com/tier in (a, b)",
          "status.phase!=Failed,spec.nodeName==n1"⟩).2 })
      (fun _ => False) := by
  obtain ⟨hintact, hhost⟩ := installed_intact default
  have hext : (Engine.installed default).Extends (2 ≤ ·) mixedWorld := .pushClosure _ _
  have hclosure : mixedWorld.closures[(Engine.installed default).closures.size]? =
      some ⟨["q"], mixedBlock.map (Match.stmt "q"), []⟩ := by
    simp [mixedWorld]
  have hwritten : ∀ m ∈ mixedBlock, writtenAll m.args = some m.expression.values := by
    decide
  have hblock : ∀ m ∈ mixedBlock, m.OperandsFit (callAt (0 + 1)) mixedWorld "q" [] :=
    fun m hm => operandsFit_of_written (hwritten m hm) mixedWorld
  obtain ⟨labels, fields, hlabels, hfields, -, h⟩ :=
    block_splits .pod (hintact.extends hext) (hext.host.trans hhost) hclosure hblock
  have hlabels' : labels = "team=core,example.com/tier in (a, b)" :=
    (Except.ok.inj hlabels).symm.trans (by decide)
  have hfields' : fields = "status.phase!=Failed,spec.nodeName==n1" := by
    have hrender : Selector.render .field (Match.selected .field mixedBlock) =
        .ok "status.phase!=Failed,spec.nodeName==n1" := rfl
    exact Except.ok.inj (hfields.symm.trans hrender)
  subst hlabels' hfields'
  refine h.mono ?_ ?_
  · intro vs w' hend
    obtain ⟨items, i, -, -, -, hhost'⟩ := hend
    exact hhost'
  · intro w' hend
    obtain ⟨⟨f, hf⟩, -⟩ := hend
    cases hf

end

end ClusterScript.Script
