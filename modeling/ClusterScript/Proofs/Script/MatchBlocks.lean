import ClusterScript.Proofs.Script.Keys
import ClusterScript.Proofs.Selector.Meaning
import ClusterScript.Proofs.Text.Cutting

/-!
# Blocks of matches

A match reaches for a key and compares it with operands. A block of matches
is run once for each kind of selector. In the pass for one kind, a match
adds its expression to the list of the pass if its key is of that kind, and
adds nothing otherwise; it never fails.

* `Reach`: the ways to a key, with the kind of selector that each is for.
* `Match`: a match, with the expression that it states.
* `World.InPass`: what holds between the matches of a pass.
* `match_gives`: one match, in either pass.
* `runBlock_gives`: all matches of a block.
-/
namespace ClusterScript.Script

open Selector (Kind Expression)

/-- How a match reaches its key on the collector `q`. -/
inductive Reach
  /-- `q.name`, a well-known name. -/
  | known (name : String)
  /-- `q:label(name)` -/
  | label (name : String)
  /-- `q:field(name)` -/
  | field (name : String)
  /-- `q.first.second`, with further names after them. -/
  | path (first second : String) (rest : List String)

namespace Reach

def expr (q : String) : Reach → Expr
  | known name => .index (.var q) (.text name)
  | label name => .method (.var q) "label" [.text name]
  | field name => .method (.var q) "field" [.text name]
  | path first second rest =>
    (second :: rest).foldl (fun e name => .index e (.text name)) (.index (.var q) (.text first))

/-- The selector that a match of the key belongs to. -/
def kind : Reach → Kind
  | known _ | label _ => .label
  | field _ | path _ _ _ => .field

/-- The key in a selector. -/
def key : Reach → String
  | known name | label name | field name => name
  | path first second rest => Text.join "." (first :: second :: rest)

/-- Names that are what they seem: no name is a method where it is a member. -/
def Valid : Reach → Prop
  | known name => name ∈ wellKnownKeys
  | label name | field name => Text.blank name = false
  | path first second rest => first ∉ wellKnownKeys ∧
    (∀ kind, first ∉ memberNames (Selectors.collectorMethods kind)) ∧
    ∀ name ∈ second :: rest, ∀ kind, name ∉ memberNames (Selectors.keyMethods kind)

instance {p : Kind → Prop} [DecidablePred p] : Decidable (∀ kind, p kind) :=
  decidable_of_iff (p .label ∧ p .field)
    ⟨fun h kind => match kind with | .label => h.1 | .field => h.2, fun h => ⟨h _, h _⟩⟩

instance (r : Reach) : Decidable r.Valid :=
  match r with
  | known name => inferInstanceAs (Decidable (name ∈ wellKnownKeys))
  | label name | field name => inferInstanceAs (Decidable (Text.blank name = false))
  | path first second rest => inferInstanceAs (Decidable (first ∉ wellKnownKeys ∧
      (∀ kind, first ∉ memberNames (Selectors.collectorMethods kind)) ∧
      ∀ name ∈ second :: rest, ∀ kind, name ∉ memberNames (Selectors.keyMethods kind)))

/-- The class of the key in a pass: members of a collector are of its own kind. -/
def keyKind (pass : Kind) : Reach → Kind
  | path _ _ _ => pass
  | known _ | label _ => .label
  | field _ => .field

end Reach

/-- A match: a key, the name of a matcher, operands, and the expression that is stated. -/
structure Match where
  reach : Reach
  matcher : String
  args : List Expr
  expression : Expression
  reach_valid : reach.Valid
  matcher_known : (matcher, expression.operator) ∈ Selectors.matchers reach.kind
  key_eq : expression.key = reach.key

namespace Match

def stmt (q : String) (m : Match) : Stmt := .run (.method (m.reach.expr q) m.matcher m.args)

/-- The operands of a match come to the values of its expression, wherever the block is run
after a world, and reach for nothing that reports. -/
def OperandsFit (call : Caller) (w : World) (q : String) (locals : Locals) (m : Match) : Prop :=
  ∀ cell w₁, w.Extends (fun _ => True) w₁ →
    (valuesOf call ((q, cell) :: locals) m.args).Gives w₁ fun vs w₂ =>
      w₁.Unreported w₂ ∧ operands w₂.tables vs = .ok m.expression.values

theorem OperandsFit.extends {call : Caller} {w w' : World} {q : String} {locals : Locals}
    {m : Match} (h : m.OperandsFit call w q locals) (hw : w.Extends (fun _ => True) w') :
    m.OperandsFit call w' q locals :=
  fun cell w₁ hw₁ => h cell w₁ (hw.trans hw₁)

/-- The expressions of one kind, in the order of the matches. -/
def selected (kind : Kind) (block : List Match) : List Expression :=
  (block.filter fun m => m.reach.kind = kind).map (·.expression)

end Match

/-- Between the matches of a pass: the collector is there, and has so many expressions. -/
structure World.InPass (base : World) (pass : Kind) (list cell : Nat) (found : List Expression)
    (w : World) : Prop where
  ext : base.Extends (fun _ => True) w
  intact : w.Intact
  collector : ∃ i, w.cells[cell]? = some (.instance i) ∧ w.IsCollector i pass list
  recorded : w.registry.recordings[list]? = some found

namespace World.InPass

variable {base w w' : World} {pass : Kind} {list cell : Nat} {found : List Expression}

theorem unreported (h : base.InPass pass list cell found w) (hw : w.Unreported w') :
    base.InPass pass list cell found w' where
  ext := h.ext.trans hw.ext
  intact := hw.intact h.intact
  collector := by
    obtain ⟨i, hcell, hi⟩ := h.collector
    exact ⟨i, hw.ext.cells _ _ hcell, hi.extends hw.ext⟩
  recorded := by rw [hw.recordings, h.recorded]

theorem record (h : base.InPass pass list cell found w) (e : Expression) :
    base.InPass pass list cell (found ++ [e])
      { w with registry := w.registry.record list e } := by
  have hext : w.Extends (fun _ => True) { w with registry := w.registry.record list e } :=
    .ofRegistry w (w.registry.recordings_extends _)
  obtain ⟨i, hcell, hi⟩ := h.collector
  refine ⟨h.ext.trans hext, h.intact.extends hext.restrict,
    ⟨i, hcell, hi.extends hext⟩, ?_⟩
  simp [Registry.record, Array.getElem?_modify, h.recorded]

end World.InPass

section

variable {base w : World} {pass kind : Kind} {list cell depth : Nat} {found : List Expression}
variable {q name : String} {locals : Locals} {call : Caller}

open Run

/-! ## Evaluating keys -/

theorem run_var {v : Value} (h : w.cells[cell]? = some v) :
    (results call ((q, cell) :: locals) (.var q)).run w = .ok [v] w := by
  have hget : (Locals.get ((q, cell) :: locals) q).run w = .ok v w := by
    have hlookup : ((q, cell) :: locals).lookup q = some cell := List.lookup_cons_self
    rw [Locals.get, hlookup]
    have : (do return (← MonadState.get).cells[cell]?.getD .nil : Run Value).run w =
        .ok (w.cells[cell]?.getD .nil) w := rfl
    exact this.trans (by rw [h, Option.getD_some])
  rw [results]
  exact run_bind_of_ok hget

/-- An index by a name goes from one result to one result. -/
theorem index_gives {object : Expr} {P Q : Value → World → Prop}
    (hobject : (results call locals object).Gives w fun vs w₁ => ∃ v, vs = [v] ∧ P v w₁)
    (hindex : ∀ v w₁, P v w₁ → (index call trapped v (.text name)).Gives w₁ Q) :
    (results call locals (.index object (.text name))).Gives w fun vs w₁ =>
      ∃ v, vs = [v] ∧ Q v w₁ := by
  rw [results]
  refine .bind hobject ?_
  intro _ w₁ hend
  obtain ⟨v, rfl, hv⟩ := hend
  have hname : (results call locals (.text name)).run w₁ = .ok [.text name] w₁ := by
    rw [results]
    rfl
  refine .bind_of_ok hname ?_
  exact .bind (hindex v w₁ hv) fun v w₂ h => .pure ⟨v, rfl, h⟩

/-- A method call: first the receiver, then the operands, then the body. -/
theorem method_gives [Library] {m : Method} {object : Expr} {args : List Expr} {trap : Trap}
    {cls : String} {methods : List Method} {P : Instance → World → Prop}
    {Q : List Value → World → Prop}
    (hobject : (results (callAt (depth + 1)) locals object).Gives w fun vs w₁ =>
      ∃ i, vs = [.instance i] ∧ w₁.Offers cls trap methods i.cls ∧ P i w₁)
    (hm : m ∈ methods) (hkind : m.body.kind = .ofInstance)
    (hargs : ∀ i w₁, P i w₁ → (valuesOf (callAt (depth + 1)) locals args).Gives w₁ fun vs w₂ =>
      w₁.Unreported w₂ ∧ m.arity.Admits vs.length ∧
        (performOn (callAt depth) i m.body vs).Gives w₂ Q) :
    (results (callAt (depth + 1)) locals (.method object m.name args)).Gives w Q := by
  rw [results]
  refine .bind hobject ?_
  intro _ w₁ hend
  obtain ⟨i, rfl, hoffers, hi⟩ := hend
  obtain ⟨k, b, hbound, hcls, rfl, hindex⟩ := run_index_method hoffers.shows hm
  refine .bind_of_ok hindex ?_
  refine .bind (hargs i w₁ hi) fun vs w₂ h => ?_
  obtain ⟨hw₂, harity, hbody⟩ := h
  exact hbody.of_run_eq
    (run_callAt_method (hw₂.ext.registry.bound k b hbound) hcls hkind harity)

/-! ## Reaching keys -/

theorem extend_gives {object : Expr} {path : List String} {sink : Sink} (hw : w.Intact)
    (hname : name ∉ memberNames (Selectors.keyMethods kind))
    (hobject : (results call locals object).Gives w fun vs w₁ =>
      ∃ v, vs = [v] ∧ w.MakesKey kind path sink v w₁) :
    (results call locals (.index object (.text name))).Gives w fun vs w₁ =>
      ∃ v, vs = [v] ∧ w.MakesKey kind (path ++ [name]) (extendedSink kind sink) v w₁ := by
  refine index_gives hobject ?_
  intro _ w₁ hend
  obtain ⟨hw₁, i, rfl, hkey⟩ := hend
  exact (indexKey_gives (hw₁.intact hw) hkey hname).weaken fun v w₂ h => ⟨hw₁.trans h.1, h.2⟩

/-- A path of any length, from a key on whose sink stays the same. -/
theorem extendAll_gives {sink : Sink} (hw : w.Intact) (hsink : extendedSink kind sink = sink) :
    ∀ (names : List String) (object : Expr) (path : List String),
      (∀ name ∈ names, name ∉ memberNames (Selectors.keyMethods kind)) →
      ((results call locals object).Gives w fun vs w₁ =>
        ∃ v, vs = [v] ∧ w.MakesKey kind path sink v w₁) →
      (results call locals (names.foldl (fun e name => .index e (.text name)) object)).Gives w
        fun vs w₁ => ∃ v, vs = [v] ∧ w.MakesKey kind (path ++ names) sink v w₁
  | [], object, path, _, hobject => by
    rw [List.append_nil]
    exact hobject
  | name :: rest, object, path, hnames, hobject => by
    have hstep := extend_gives hw (hnames name (by simp)) hobject
    rw [hsink] at hstep
    have hrest := extendAll_gives hw hsink rest _ _ (fun n hn => hnames n (by simp [hn])) hstep
    rw [List.append_assoc] at hrest
    exact hrest

/-- A method of a collector that makes a key of the wanted kind. -/
theorem make_gives [Library] {wanted : Kind} {member : String}
    (h : base.InPass pass list cell found w)
    (hmember : ⟨member, .exact 1, .selector (.makeKey wanted)⟩ ∈ Selectors.collectorMethods pass)
    (hname : Text.blank name = false) :
    (results (callAt (depth + 1)) ((q, cell) :: locals)
      (.method (.var q) member [.text name])).Gives w fun vs w₁ =>
        ∃ v, vs = [v] ∧ w.MakesKey wanted (Text.splitOn '.' name)
          (Selectors.sinkFor pass wanted list) v w₁ := by
  obtain ⟨i, hcell, hi⟩ := h.collector
  refine method_gives (P := fun j w₁ => i = j ∧ w = w₁)
    (.of_ok (run_var hcell) ⟨i, rfl, hi.cls, rfl, rfl⟩) hmember rfl ?_
  intro _ _ hend
  obtain ⟨rfl, rfl⟩ := hend
  have hargs : (valuesOf (callAt (depth + 1)) ((q, cell) :: locals) [.text name]).run w =
      .ok [.text name] w := by
    rw [valuesOf, results, valuesOf]
    rfl
  refine .of_ok hargs ⟨.refl w, rfl, ?_⟩
  exact .bind (makeKey_gives h.intact hi hname wanted) fun v w₁ hv => .pure ⟨v, rfl, hv⟩

/-- **Every way to a key leads to it, in either pass.** The matches of the key go to the list
of the pass if that is their kind, and nowhere if it is not. -/
theorem reach_gives [Library] (depth : Nat) (q : String) (locals : Locals) {r : Reach}
    (h : base.InPass pass list cell found w) (hr : r.Valid) :
    ∃ path, r.key = Text.join "." path ∧
      (results (callAt (depth + 1)) ((q, cell) :: locals) (r.expr q)).Gives w fun vs w₁ =>
        ∃ v, vs = [v] ∧
          w.MakesKey (r.keyKind pass) path (Selectors.sinkFor pass r.kind list) v w₁ := by
  obtain ⟨i, hcell, hi⟩ := h.collector
  have hcollector : (results (callAt (depth + 1)) ((q, cell) :: locals) (.var q)).Gives w
      fun vs w₁ => ∃ v, vs = [v] ∧ v = .instance i ∧ w₁ = w :=
    .of_ok (run_var hcell) ⟨_, rfl, rfl, rfl⟩
  cases r with
  | known name =>
    refine ⟨[name], rfl, index_gives hcollector ?_⟩
    intro _ _ hend
    obtain ⟨rfl, rfl⟩ := hend
    exact indexKnown_gives hi hr
  | label name =>
    have hmember : ⟨"label", .exact 1, .selector (.makeKey .label)⟩ ∈
        Selectors.collectorMethods pass := by simp [Selectors.collectorMethods]
    exact ⟨_, (Text.join_splitOn '.' name).symm, make_gives h hmember hr⟩
  | field name =>
    have hmember : ⟨"field", .exact 1, .selector (.makeKey .field)⟩ ∈
        Selectors.collectorMethods pass := by simp [Selectors.collectorMethods]
    exact ⟨_, (Text.join_splitOn '.' name).symm, make_gives h hmember hr⟩
  | path first second rest =>
    obtain ⟨hknown, hmember, hnames⟩ := hr
    have hfirst : (results (callAt (depth + 1)) ((q, cell) :: locals)
        (.index (.var q) (.text first))).Gives w fun vs w₁ =>
          ∃ v, vs = [v] ∧ w.MakesKey pass [first] (.record list) v w₁ := by
      refine index_gives hcollector ?_
      intro _ _ hend
      obtain ⟨rfl, rfl⟩ := hend
      exact indexOther_gives h.intact hi hknown (hmember pass)
    have hsecond := extend_gives h.intact (hnames second (by simp) pass) hfirst
    have hsink : extendedSink pass (.record list) = Selectors.sinkFor pass .field list := by
      cases pass <;> rfl
    rw [hsink] at hsecond
    refine ⟨first :: second :: rest, rfl, extendAll_gives h.intact ?_ rest _ _ ?_ hsecond⟩
    · cases pass <;> rfl
    · exact fun name hname => hnames name (by simp [hname]) pass

/-! ## Matches -/

theorem run_compare {i : Instance} {path : List String} {sink : Sink} {vs : List Value}
    {e : Expression} (hi : w.IsKey i kind path sink)
    (hvalues : operands w.tables vs = .ok e.values) (hkey : e.key = Text.join "." path) :
    (Selectors.compare i e.operator vs).run w = (Selectors.report sink e).run w := by
  have hoperands : (Selectors.liftFlatten (operands w.tables vs)).run w = .ok e.values w := by
    rw [hvalues]
    rfl
  have hmade : (liftRefusal (Expression.make? (Text.join "." path) e.operator e.values)).run w =
      .ok e w := by
    rw [Expression.make?_eq_ok.2 ⟨hkey, rfl, rfl⟩]
    rfl
  refine (run_bind_of_ok (run_lookup hi.state)).trans ?_
  exact (run_bind_of_ok hoperands).trans (run_bind_of_ok hmade)

/-- What a match adds to the list of a pass. -/
def Match.adds (m : Match) (pass : Kind) : List Expression :=
  if m.reach.kind = pass then [m.expression] else []

theorem Match.selected_cons (m : Match) (rest : List Match) (kind : Kind) :
    Match.selected kind (m :: rest) = m.adds kind ++ Match.selected kind rest := by
  by_cases h : m.reach.kind = kind <;> simp [Match.selected, Match.adds, h]

theorem report_record (h : base.InPass pass list cell found w) (e : Expression) :
    (Selectors.report (.record list) e).Gives w
      fun _ w' => base.InPass pass list cell (found ++ [e]) w' := .of_ok rfl (h.record e)

theorem report_gives {m : Match} (h : base.InPass pass list cell found w) :
    (Selectors.report (Selectors.sinkFor pass m.reach.kind list) m.expression).Gives w
      fun _ w' => base.InPass pass list cell (found ++ m.adds pass) w' := by
  by_cases hkind : m.reach.kind = pass
  · rw [Match.adds, if_pos hkind, Selectors.sinkFor, if_pos hkind.symm]
    exact report_record h m.expression
  · rw [Match.adds, if_neg hkind, Selectors.sinkFor, if_neg (Ne.symm hkind), List.append_nil]
    exact .pure h

/-- A key that is compared with operands reports the expression that they make, and the pass goes
on as its sink says. -/
theorem comparison_gives [Library] {object : Expr} {path : List String} {sink : Sink}
    {matcher : String} {args : List Expr} {e : Expression} {more : List Expression}
    (h : base.InPass pass list cell found w)
    (hobject : (results (callAt (depth + 1)) ((q, cell) :: locals) object).Gives w
      fun vs w₁ => ∃ v, vs = [v] ∧ w.MakesKey kind path sink v w₁)
    (hmatcher : (matcher, e.operator) ∈ Selectors.matchers kind)
    (hkey : e.key = Text.join "." path)
    (hargs : ∀ w₁, base.Extends (fun _ => True) w₁ →
      (valuesOf (callAt (depth + 1)) ((q, cell) :: locals) args).Gives w₁ fun vs w₂ =>
        w₁.Unreported w₂ ∧ operands w₂.tables vs = .ok e.values)
    (hreport : ∀ w₂, base.InPass pass list cell found w₂ → (Selectors.report sink e).Gives w₂
      fun _ w' => base.InPass pass list cell (found ++ more) w') :
    (results (callAt (depth + 1)) ((q, cell) :: locals) (.method object matcher args)).Gives w
      fun _ w' => base.InPass pass list cell (found ++ more) w' := by
  let method : Method := ⟨matcher, .any, .selector (.compare e.operator)⟩
  have hmethod : method ∈ Selectors.keyMethods kind :=
    List.mem_append_left _ (List.mem_map.2 ⟨_, hmatcher, rfl⟩)
  have hkeyed : (results (callAt (depth + 1)) ((q, cell) :: locals) object).Gives w
      fun vs w₁ => ∃ i, vs = [.instance i] ∧
        w₁.Offers (keyClass kind) (.path kind) (Selectors.keyMethods kind) i.cls ∧
        w.Unreported w₁ ∧ w₁.IsKey i kind path sink := by
    refine hobject.weaken ?_
    intro _ w₁ hend
    obtain ⟨_, rfl, hw₁, i, rfl, hi⟩ := hend
    exact ⟨i, rfl, hi.cls, hw₁, hi⟩
  refine method_gives hkeyed hmethod rfl ?_
  intro i w₁ hend
  obtain ⟨hw₁, hi⟩ := hend
  have h₁ := h.unreported hw₁
  refine (hargs w₁ h₁.ext).weaken ?_
  intro vs w₂ hend
  obtain ⟨hw₂, hvalues⟩ := hend
  have hrun := run_compare (hi.extends hw₂.ext) hvalues hkey
  exact ⟨hw₂, trivial, .bind ((hreport w₂ (h₁.unreported hw₂)).of_run_eq hrun)
    fun _ _ h => .pure h⟩

/-- The matchers of fields are matchers of labels, with the same meaning. -/
theorem matchers_keyKind {matcher : String} {o : Selector.Operator} {r : Reach}
    (h : (matcher, o) ∈ Selectors.matchers r.kind) :
    (matcher, o) ∈ Selectors.matchers (r.keyKind pass) := by
  have hsub : ∀ p ∈ Selectors.fieldMatchers, p ∈ Selectors.labelMatchers := by decide
  cases r with
  | path first second rest =>
    cases pass with
    | label => exact hsub _ h
    | field => exact h
  | _ => exact h

/-- One match, in either pass. -/
theorem match_gives [Library] {m : Match} (h : base.InPass pass list cell found w)
    (hm : m.OperandsFit (callAt (depth + 1)) base q locals) :
    (results (callAt (depth + 1)) ((q, cell) :: locals)
      (.method (m.reach.expr q) m.matcher m.args)).Gives w fun _ w' =>
        base.InPass pass list cell (found ++ m.adds pass) w' := by
  obtain ⟨path, hkey, hreach⟩ := reach_gives depth q locals h m.reach_valid
  exact comparison_gives h hreach (matchers_keyKind m.matcher_known) (m.key_eq.trans hkey)
    (fun w₁ hw₁ => hm cell w₁ hw₁) fun w₂ h₂ => report_gives h₂

/-- **All matches of a block, in either pass.** The list of the pass gets the expressions of
its kind, in the order of the matches. -/
theorem runBlock_gives [Library] : ∀ {found : List Expression} {w : World} (block : List Match),
    base.InPass pass list cell found w →
    (∀ m ∈ block, m.OperandsFit (callAt (depth + 1)) base q locals) →
    (runBlock (callAt (depth + 1)) ((q, cell) :: locals) (block.map (Match.stmt q))).Gives w
      fun _ w' => base.InPass pass list cell (found ++ Match.selected pass block) w'
  | found, w, [], h, _ => by
    rw [List.map_nil, runBlock]
    exact .pure (by rwa [Match.selected, List.filter_nil, List.map_nil, List.append_nil])
  | found, w, m :: rest, h, hblock => by
    rw [List.map_cons, Match.stmt, runBlock, Match.selected_cons, ← List.append_assoc]
    exact .bind (match_gives h (hblock m (by simp))) fun _ w₁ h₁ =>
      runBlock_gives rest h₁ fun m hm => hblock m (by simp [hm])

end

end ClusterScript.Script
