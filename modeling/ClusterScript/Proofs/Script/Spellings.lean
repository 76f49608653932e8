import ClusterScript.Cluster.Decoding
import ClusterScript.Proofs.Script.QueryBlocks

/-!
# Two spellings of a label

A label can be named as a member of the collector, `q.team`, or through a
method, `q:label("team")`. In the pass for labels both are the same. In the
pass for fields only a well-known member is a label: any other name is a key
of the collector's own kind there, so its comparison is reported once more, as
one of a field, and fails where fields do not have the matcher.

* `Named`: a comparison of a label in either spelling.
* `Clause`: what stands in a block, a match or a comparison of a plain member.
* `clauses_gather`: the passes over a block of clauses that all serve them.
* `plain_fails`: the comparison that ends the pass for fields.
* `spellings_ask`: what the cluster is asked for with either spelling.
-/
namespace ClusterScript.Script

open Selector (Kind Expression)

/-! ## Clauses of a block -/

/-- A comparison by a matcher of labels, of a key with a name that is no method of a collector. -/
structure Named where
  name : String
  matcher : String
  args : List Expr
  expression : Expression
  name_free : name ∉ memberNames (Selectors.collectorMethods .label)
  matcher_known : (matcher, expression.operator) ∈ Selectors.labelMatchers
  key_eq : expression.key = name

namespace Named

/-- `q.name:matcher(args)` -/
def expr (q : String) (c : Named) : Expr :=
  .method (.index (.var q) (.text c.name)) c.matcher c.args

/-- `q:label(name):matcher(args)` -/
def labelled (c : Named) : Match where
  reach := .label c.name
  matcher := c.matcher
  args := c.args
  expression := c.expression
  reach_valid := by
    show Text.blank c.name = false
    rw [← c.key_eq]
    exact c.expression.key_not_blank
  matcher_known := c.matcher_known
  key_eq := c.key_eq

/-- The plain spelling of a well-known name. -/
def known (c : Named) (h : c.name ∈ wellKnownKeys) : Match where
  reach := .known c.name
  matcher := c.matcher
  args := c.args
  expression := c.expression
  reach_valid := h
  matcher_known := c.matcher_known
  key_eq := c.key_eq

/-- Fields can be compared in the same way. -/
def ComparesFields (c : Named) : Prop :=
  (c.matcher, c.expression.operator) ∈ Selectors.fieldMatchers

instance (c : Named) : Decidable c.ComparesFields :=
  inferInstanceAs (Decidable (_ ∈ Selectors.fieldMatchers))

end Named

/-- What stands in a block: a match, or a comparison of a plain member. -/
inductive Clause
  | matched (m : Match)
  | plain (c : Named)

namespace Clause

def expr (q : String) : Clause → Expr
  | matched m => .method (m.reach.expr q) m.matcher m.args
  | plain c => c.expr q

def stmt (q : String) (e : Clause) : Stmt := .run (e.expr q)

/-- What a clause adds to the list of a pass: a plain member serves both passes, unless it is
well-known. -/
def adds (pass : Kind) : Clause → List Expression
  | matched m => m.adds pass
  | plain c => if pass = .label ∨ c.name ∉ wellKnownKeys then [c.expression] else []

/-- A clause goes through both passes. -/
def Serves : Clause → Prop
  | matched _ => True
  | plain c => c.name ∈ wellKnownKeys ∨ c.ComparesFields

instance (e : Clause) : Decidable e.Serves :=
  match e with
  | matched _ => inferInstanceAs (Decidable True)
  | plain c => inferInstanceAs (Decidable (c.name ∈ wellKnownKeys ∨ c.ComparesFields))

/-- The operands of a clause fit it. -/
def OperandsFit (call : Caller) (w : World) (q : String) (locals : Locals) : Clause → Prop
  | matched m => m.OperandsFit call w q locals
  | plain c => c.labelled.OperandsFit call w q locals

/-- What a block adds to the list of a pass. -/
def gathered (pass : Kind) (block : List Clause) : List Expression := block.flatMap (·.adds pass)

theorem OperandsFit.extends {call : Caller} {w w' : World} {q : String} {locals : Locals}
    {e : Clause} (h : e.OperandsFit call w q locals) (hw : w.Extends (fun _ => True) w') :
    e.OperandsFit call w' q locals := by
  cases e with
  | matched m => exact Match.OperandsFit.extends h hw
  | plain c => exact Match.OperandsFit.extends h hw

end Clause

section

variable {base w : World} {pass : Kind} {list cell depth id : Nat} {found : List Expression}
variable {q : String} {locals : Locals} {c : Named} {e : Clause} {block : List Clause}

open Run

/-! ## Passes that succeed -/

theorem memberNames_collector (kind : Kind) :
    memberNames (Selectors.collectorMethods kind) =
      memberNames (Selectors.collectorMethods .label) := by
  cases kind <;> rfl

/-- A plain member that is not well-known is a key of the kind of the pass. -/
theorem plain_reaches [Library] (depth : Nat) (q : String) (locals : Locals)
    (h : base.InPass pass list cell found w) (hname : c.name ∉ wellKnownKeys) :
    (results (callAt (depth + 1)) ((q, cell) :: locals)
      (.index (.var q) (.text c.name))).Gives w fun vs w₁ =>
        ∃ v, vs = [v] ∧ w.MakesKey pass [c.name] (.record list) v w₁ := by
  obtain ⟨i, hcell, hi⟩ := h.collector
  have hcollector : (results (callAt (depth + 1)) ((q, cell) :: locals) (.var q)).Gives w
      fun vs w₁ => ∃ v, vs = [v] ∧ v = .instance i ∧ w₁ = w :=
    .of_ok (run_var hcell) ⟨_, rfl, rfl, rfl⟩
  refine index_gives hcollector ?_
  intro _ _ hend
  obtain ⟨rfl, rfl⟩ := hend
  have hfree := c.name_free
  rw [← memberNames_collector pass] at hfree
  exact indexOther_gives h.intact hi hname hfree

/-- One clause, in a pass that it serves. -/
theorem clause_gives [Library] (h : base.InPass pass list cell found w)
    (hserves : pass = .field → e.Serves) (hfit : e.OperandsFit (callAt (depth + 1)) base q locals) :
    (results (callAt (depth + 1)) ((q, cell) :: locals) (e.expr q)).Gives w fun _ w' =>
      base.InPass pass list cell (found ++ e.adds pass) w' := by
  cases e with
  | matched m => exact match_gives h hfit
  | plain c =>
    by_cases hname : c.name ∈ wellKnownKeys
    · -- a well-known member is the key of a match
      have hmatch : (c.known hname).OperandsFit (callAt (depth + 1)) base q locals := hfit
      have hadds : Clause.adds pass (.plain c) = (c.known hname).adds pass := by
        cases pass with
        | label => simp [Clause.adds, Match.adds, Named.known, Reach.kind]
        | field => simp [Clause.adds, Match.adds, Named.known, Reach.kind, hname]
      rw [hadds]
      exact match_gives h hmatch
    · have hmatcher : (c.matcher, c.expression.operator) ∈ Selectors.matchers pass := by
        cases pass with
        | label => exact c.matcher_known
        | field => exact (hserves rfl).resolve_left hname
      rw [Clause.adds, if_pos (Or.inr hname)]
      exact comparison_gives h (plain_reaches depth q locals h hname) hmatcher c.key_eq
        (fun w₁ hw₁ => hfit cell w₁ hw₁) fun w₂ h₂ => report_record h₂ c.expression

/-- The clauses of a block, in a pass that all of them serve. -/
theorem runClauses_gives [Library] : ∀ {found : List Expression} {w : World} (block : List Clause),
    base.InPass pass list cell found w → (pass = .field → ∀ e ∈ block, e.Serves) →
    (∀ e ∈ block, e.OperandsFit (callAt (depth + 1)) base q locals) → ∀ rest : List Stmt,
    ∃ w', base.InPass pass list cell (found ++ Clause.gathered pass block) w' ∧
      (runBlock (callAt (depth + 1)) ((q, cell) :: locals) (block.map (Clause.stmt q) ++ rest)).run
        w = (runBlock (callAt (depth + 1)) ((q, cell) :: locals) rest).run w'
  | found, w, [], h, _, _, rest => ⟨w, by simpa [Clause.gathered] using h, rfl⟩
  | found, w, e :: block, h, hserves, hfit, rest => by
    obtain ⟨vs, w₁, hrun, h₁⟩ :=
      (clause_gives h (fun hp => hserves hp e (by simp)) (hfit e (by simp))).exists_ok
    obtain ⟨w', h', hrest⟩ := runClauses_gives block h₁
      (fun hp e he => hserves hp e (by simp [he])) (fun e he => hfit e (by simp [he])) rest
    refine ⟨w', by simpa [Clause.gathered] using h', ?_⟩
    rw [List.map_cons, List.cons_append, Clause.stmt, runBlock, run_bind_of_ok hrun, hrest]

theorem clauses_gather [Library] (hserves : pass = .field → ∀ e ∈ block, e.Serves)
    (hfit : ∀ e ∈ block, e.OperandsFit (callAt (depth + 1)) w q locals) :
    w.Gathers (callAt (depth + 1)) q locals pass (block.map (Clause.stmt q))
      (Clause.gathered pass block) := by
  intro base w₁ list cell hext hpass
  obtain ⟨w', h', hrun⟩ :=
    runClauses_gives block hpass hserves (fun e he => (hfit e he).extends hext) []
  rw [List.append_nil] at hrun
  rw [runBlock] at hrun
  exact .of_ok hrun (by simpa using h')

/-! ## Passes that fail -/

/-- An action raises a value and leaves the session and its cluster as they were. -/
def Run.Raises {α : Type} (act : Run α) (w : World) (v : Value) : Prop :=
  ∃ w', act.run w = .error (.raised v) w' ∧ w'.host = w.host

namespace Run.Raises

variable {α β : Type} {x : Run α} {f : α → Run β} {w₁ : World} {v : Value}

theorem bind (h : x.Raises w v) : (x >>= f).Raises w v := by
  obtain ⟨w', hrun, hhost⟩ := h
  exact ⟨w', by rw [EStateM.run_bind, hrun], hhost⟩

theorem of_run_eq {y : Run α} (h : y.Raises w₁ v) (hrun : x.run w = y.run w₁)
    (hext : w.Extends (fun _ => True) w₁) : x.Raises w v := by
  obtain ⟨w', hraised, hhost⟩ := h
  exact ⟨w', hrun.trans hraised, hhost.trans hext.host⟩

/-- After a part that is done, where the next one raises. -/
theorem after {a : α} (hrun : x.run w = .ok a w₁) (hext : w.Extends (fun _ => True) w₁)
    (h : (f a).Raises w₁ v) : (x >>= f).Raises w v :=
  h.of_run_eq (run_bind_of_ok hrun) hext

/-- A text that a function raises is a fault for the host. -/
theorem fromHost {call : Caller} {f : Value} {args : List Value} {text : String}
    (h : (call f args).Raises w (.text text))
    (htrace : Text.splitOnce "\nstack traceback:" text = none) :
    (callFromHost call f args).Raises w (.fault (.script text)) := by
  obtain ⟨w', hrun, hhost⟩ := h
  refine ⟨w', ?_, hhost⟩
  have hcaught : (callFromHost call f args).run w =
      (do Run.fault (← faultOf call (.text text)) : Run (List Value)).run w' := by
    show EStateM.tryCatch (call f args) _ w = _
    unfold EStateM.tryCatch
    rw [show call f args w = .error (.raised (.text text)) w' from hrun]
    rfl
  have hraisedText : (raisedText call (.text text)).run w' = .ok text w' := by
    have : (raisedText call (.text text)).run w' =
        .ok (((Text.splitOnce "\nstack traceback:" text).map (·.1)).getD text) w' := rfl
    rw [this, htrace]
    rfl
  have hfault : (faultOf call (.text text)).run w' = .ok (.script text) w' :=
    run_bind_of_ok hraisedText
  rw [hcaught, run_bind_of_ok hfault]
  rfl

end Run.Raises

/-- What calling a key raises. -/
def notCallable : String := "attempt to call a Instance value"

/-- Names of matchers that fields do not have are no members of their keys. -/
theorem matcher_not_member (h : ¬ c.ComparesFields) :
    c.matcher ∉ memberNames (Selectors.keyMethods .field) := by
  have habsent : ∀ p ∈ Selectors.labelMatchers, p ∉ Selectors.fieldMatchers →
      p.1 ∉ memberNames (Selectors.keyMethods .field) := by decide
  exact habsent _ c.matcher_known h

/-- In the pass for fields, a matcher that fields do not have is a longer path, and a key cannot be
called. -/
theorem plain_fails [Library] (h : base.InPass .field list cell found w)
    (hname : c.name ∉ wellKnownKeys) (hmatcher : ¬ c.ComparesFields)
    (hfit : c.labelled.OperandsFit (callAt (depth + 1)) base q locals) :
    (results (callAt (depth + 1)) ((q, cell) :: locals) (c.expr q)).Raises w
      (.text notCallable) := by
  obtain ⟨_, w₁, hkey, _, rfl, hw₁, i, rfl, hi⟩ :=
    (plain_reaches depth q locals h hname).exists_ok
  have h₁ := h.unreported hw₁
  have hmember : (index (callAt (depth + 1)) trapped (.instance i) (.text c.matcher)).Gives w₁
      (w₁.MakesKey .field ([c.name] ++ [c.matcher]) (.record list)) :=
    indexKey_gives h₁.intact hi (matcher_not_member hmatcher)
  obtain ⟨_, w₂, hlonger, hw₂, j, rfl, -⟩ := hmember.exists_ok
  have h₂ := h₁.unreported hw₂
  obtain ⟨vs, w₃, hargs, hw₃, -⟩ := (hfit cell w₂ h₂.ext).exists_ok
  rw [Named.expr, results]
  refine .after hkey hw₁.ext (.after hlonger hw₂.ext (.after hargs hw₃.ext ?_))
  exact ⟨w₃, rfl, rfl⟩

section

variable {before after : List Clause}

/-- A block that comes to such a comparison raises there. -/
theorem runClauses_fails [Library] (h : base.InPass .field list cell found w)
    (hserves : ∀ e ∈ before, e.Serves) (hname : c.name ∉ wellKnownKeys)
    (hmatcher : ¬ c.ComparesFields) (hfit : ∀ e ∈ before ++ .plain c :: after,
      e.OperandsFit (callAt (depth + 1)) base q locals) :
    (runBlock (callAt (depth + 1)) ((q, cell) :: locals)
      ((before ++ .plain c :: after).map (Clause.stmt q))).Raises w (.text notCallable) := by
  rw [List.forall_mem_append, List.forall_mem_cons] at hfit
  obtain ⟨hbefore, hplain, -⟩ := hfit
  obtain ⟨w₁, h₁, hrun⟩ := runClauses_gives before h (fun _ => hserves) hbefore
    ((Clause.plain c :: after).map (Clause.stmt q))
  obtain ⟨w', hraised, hhost⟩ := plain_fails h₁ hname hmatcher hplain
  rw [List.map_append]
  refine ⟨w', hrun.trans ?_, hhost.trans (h₁.ext.host.trans h.ext.host.symm)⟩
  rw [List.map_cons, Clause.stmt, Clause.expr, runBlock, EStateM.run_bind, hraised]

/-- The query of such a block is not made. -/
theorem queryOf_fails [Library] (hw : w.Intact)
    (hclosure : w.closures[id]? =
      some ⟨[q], (before ++ .plain c :: after).map (Clause.stmt q), locals⟩)
    (hserves : ∀ e ∈ before, e.Serves) (hname : c.name ∉ wellKnownKeys)
    (hmatcher : ¬ c.ComparesFields)
    (hfit : ∀ e ∈ before ++ .plain c :: after, e.OperandsFit (callAt (depth + 1)) w q locals) :
    (queryOf (callAt (depth + 2)) [.closure id]).Raises w (.fault (.script notCallable)) := by
  have hrender : ∃ text, Selector.render .label
      (Clause.gathered .label (before ++ .plain c :: after)) = .ok text :=
    render_ok .label (by simp)
  obtain ⟨labels, hlabels⟩ := hrender
  obtain ⟨text, w₁, hevaluate, -, hext, hw₁⟩ :=
    (evaluate_gives hw hclosure (clauses_gather (by simp) hfit) hlabels).exists_ok
  refine Run.Raises.of_run_eq ?_ (run_queryOf_block _ id w) (.refl w)
  refine .after hevaluate hext (.bind ?_)
  obtain ⟨i, list, w₂, hext₂, hw₂, hi, hlist, hopened⟩ :=
    newCollector_opens hw₁ (callAt (depth + 2)) .field (.closure id)
  have hall := hext.trans hext₂
  obtain ⟨w₃, hpass, hentered⟩ :=
    callBlock_enters (depth + 1) hw₂ hi hlist (hall.closures _ _ hclosure)
  have hfails := runClauses_fails hpass hserves hname hmatcher
    fun e he => (hfit e he).extends hall
  have hcall : (callAt (depth + 2) (.closure id) [.instance i]).Raises w₂ (.text notCallable) :=
    Run.Raises.of_run_eq (.bind hfails) hentered hpass.ext
  have hcollector : (Selectors.newCollector (callAt (depth + 2)) .field (.closure id)).Raises w₁
      (.fault (.script notCallable)) :=
    .of_run_eq (.bind (hcall.fromHost (by decide))) hopened hext₂
  exact .bind (.bind hcollector)

end

/-! ## Both spellings -/

/-- A query verb that is given a block asks the cluster once, with two selectors, and gives the
list of what is answered. It fails only if the cluster does. -/
def World.AsksFor [Library] (w : World) (depth id : Nat) (r : Resource) (session : Host)
    (o : ListOptions) : Prop :=
  (callAt depth (.host (.list r)) [.closure id]).Ends w
    (fun vs w' => ∃ items i, (session.listed r o).1 = .ok items ∧ vs = [.instance i] ∧
      w'.registry.lookup i = .ok (.list ⟨.current, none, o⟩ items) ∧
      w'.host = some { session with cluster := (session.listed r o).2 })
    fun w' => (∃ f, (session.listed r o).1 = .error f) ∧
      w'.host = some { session with cluster := (session.listed r o).2 }

/-- A field comparison of a clause that serves has field terms. -/
theorem fieldTerms_gathered (hserves : ∀ e ∈ block, e.Serves) {stated : Expression}
    (h : stated ∈ Clause.gathered .field block) : ∃ terms, stated.fieldTerms = .ok terms := by
  obtain ⟨e, he, hadded⟩ := List.mem_flatMap.1 h
  cases e with
  | matched m =>
    by_cases hkind : m.reach.kind = .field
    · rw [Clause.adds, Match.adds, if_pos hkind, List.mem_singleton] at hadded
      have hmatcher := m.matcher_known
      rw [hkind] at hmatcher
      rw [hadded]
      exact fieldTerms_of_matcher hmatcher
    · simp [Clause.adds, Match.adds, hkind] at hadded
  | plain c =>
    by_cases hname : c.name ∈ wellKnownKeys
    · simp [Clause.adds, hname] at hadded
    · rw [Clause.adds, if_pos (Or.inr hname), List.mem_singleton] at hadded
      rw [hadded]
      exact fieldTerms_of_matcher ((hserves _ he).resolve_left hname)

/-- A block of clauses that all serve asks for what its two passes gather. -/
theorem clauses_ask [Library] (r : Resource) {session : Host} (hw : w.Intact)
    (hhost : w.host = some session)
    (hclosure : w.closures[id]? = some ⟨[q], block.map (Clause.stmt q), locals⟩)
    (hserves : ∀ e ∈ block, e.Serves)
    (hfit : ∀ e ∈ block, e.OperandsFit (callAt (depth + 1)) w q locals) :
    ∃ labels fields, Selector.render .label (Clause.gathered .label block) = .ok labels ∧
      Selector.render .field (Clause.gathered .field block) = .ok fields ∧
      w.AsksFor (depth + 3) id r session ⟨labels, fields⟩ := by
  have hrender : ∀ kind, ∃ text,
      Selector.render kind (Clause.gathered kind block) = .ok text := by
    refine fun kind => render_ok kind ?_
    rintro rfl stated h
    exact fieldTerms_gathered hserves h
  obtain ⟨labels, hlabels⟩ := hrender .label
  obtain ⟨fields, hfields⟩ := hrender .field
  refine ⟨labels, fields, hlabels, hfields, ?_⟩
  obtain ⟨query, w₁, hquery, rfl, hext, hw₁⟩ :=
    (queryOf_gives hw hclosure (clauses_gather (by simp) hfit)
      (clauses_gather (fun _ => hserves) hfit) hlabels hfields).exists_ok
  refine Ends.of_run_eq ?_ (run_bind_of_ok hquery)
  refine .bind (newList_asks hw₁ (hext.host.trans hhost)) ?_
  intro _ w₂ hend
  obtain ⟨items, i, hitems, rfl, hlookup, hhost₂⟩ := hend
  exact .pure ⟨items, i, hitems, rfl, hlookup, hhost₂⟩

theorem Clause.gathered_insert (before after : List Clause) (e : Clause) :
    Clause.gathered pass (before ++ e :: after) =
      Clause.gathered pass before ++ (e.adds pass ++ Clause.gathered pass after) := by
  simp [Clause.gathered]

/-- **A label as a member of the collector, and through `label`.** Where the classes of selectors
are as a session has them, a query verb is given a block with either spelling of a comparison of
labels, among other clauses. With `label` it asks for the label in the label selector. The same is
asked for with a member that is well-known. Any other member is a key of the collector's own kind
in both passes: if fields have the matcher, the field selector asks for the comparison too; if not,
the verb fails and the cluster is not asked. -/
theorem spellings_ask [Library] (r : Resource) {session : Host} {plainId labelledId : Nat}
    (hw : w.Intact) (hhost : w.host = some session) (before after : List Clause) (c : Named)
    (hplain : w.closures[plainId]? =
      some ⟨[q], (before ++ .plain c :: after).map (Clause.stmt q), locals⟩)
    (hlabelled : w.closures[labelledId]? =
      some ⟨[q], (before ++ .matched c.labelled :: after).map (Clause.stmt q), locals⟩)
    (hserves : ∀ e ∈ before ++ after, e.Serves)
    (hfit : ∀ e ∈ before ++ .plain c :: after, e.OperandsFit (callAt (depth + 1)) w q locals) :
    ∃ labels fields,
      Selector.render .label (Clause.gathered .label before ++
        c.expression :: Clause.gathered .label after) = .ok labels ∧
      Selector.render .field (Clause.gathered .field (before ++ after)) = .ok fields ∧
      w.AsksFor (depth + 3) labelledId r session ⟨labels, fields⟩ ∧
      (c.name ∈ wellKnownKeys →
        w.AsksFor (depth + 3) plainId r session ⟨labels, fields⟩) ∧
      (c.name ∉ wellKnownKeys → c.ComparesFields →
        ∃ both, Selector.render .field (Clause.gathered .field before ++
            c.expression :: Clause.gathered .field after) = .ok both ∧
          w.AsksFor (depth + 3) plainId r session ⟨labels, both⟩) ∧
      (c.name ∉ wellKnownKeys → ¬ c.ComparesFields →
        (callAt (depth + 3) (.host (.list r)) [.closure plainId]).Raises w
          (.fault (.script notCallable))) := by
  rw [List.forall_mem_append] at hserves
  obtain ⟨hbefore, hafter⟩ := hserves
  have hfits := hfit
  rw [List.forall_mem_append, List.forall_mem_cons] at hfits
  obtain ⟨hfitBefore, hfitPlain, hfitAfter⟩ := hfits
  -- what the two passes gather with either spelling
  have hlabel : ∀ e : Clause, e.adds .label = [c.expression] →
      Clause.gathered .label (before ++ e :: after) =
        Clause.gathered .label before ++ c.expression :: Clause.gathered .label after := by
    intro e he
    rw [Clause.gathered_insert, he, List.singleton_append]
  have hnone : ∀ e : Clause, e.adds .field = [] →
      Clause.gathered .field (before ++ e :: after) = Clause.gathered .field (before ++ after) := by
    intro e he
    rw [Clause.gathered_insert, he, List.nil_append, Clause.gathered, Clause.gathered,
      Clause.gathered, List.flatMap_append]
  have hplainLabel : Clause.adds .label (.plain c) = [c.expression] := by simp [Clause.adds]
  obtain ⟨labels, fields, hlabels, hfields, hasks⟩ := clauses_ask r hw hhost hlabelled
    (List.forall_mem_append.2 ⟨hbefore, List.forall_mem_cons.2 ⟨trivial, hafter⟩⟩)
    (List.forall_mem_append.2 ⟨hfitBefore, List.forall_mem_cons.2 ⟨hfitPlain, hfitAfter⟩⟩)
  rw [hlabel (.matched c.labelled) rfl] at hlabels
  rw [hnone (.matched c.labelled) rfl] at hfields
  refine ⟨labels, fields, hlabels, hfields, hasks, fun hname => ?_, fun hname hcompares => ?_,
    fun hname hcompares => ?_⟩
  · obtain ⟨labels', fields', hlabels', hfields', hasks'⟩ := clauses_ask r hw hhost hplain
      (List.forall_mem_append.2 ⟨hbefore, List.forall_mem_cons.2 ⟨Or.inl hname, hafter⟩⟩) hfit
    rw [hlabel (.plain c) hplainLabel, hlabels] at hlabels'
    rw [hnone (.plain c) (by simp [Clause.adds, hname]), hfields] at hfields'
    rw [Except.ok.inj hlabels', Except.ok.inj hfields']
    exact hasks'
  · obtain ⟨labels', both, hlabels', hboth, hasks'⟩ := clauses_ask r hw hhost hplain
      (List.forall_mem_append.2 ⟨hbefore, List.forall_mem_cons.2 ⟨Or.inr hcompares, hafter⟩⟩) hfit
    have hadds : Clause.adds .field (.plain c) = [c.expression] := by simp [Clause.adds, hname]
    rw [hlabel (.plain c) hplainLabel, hlabels] at hlabels'
    rw [Clause.gathered_insert, hadds, List.singleton_append] at hboth
    rw [← Except.ok.inj hlabels'] at hasks'
    exact ⟨both, hboth, hasks'⟩
  · exact .of_run_eq (.bind (queryOf_fails hw hplain hbefore hname hcompares hfit)) rfl (.refl w)

/-! ## A label that is not well-known -/

/-- `q.zone:eq("x")` or `q:label("zone"):eq("x")` -/
def zone : Named :=
  ⟨"zone", "eq", [.text "x"], ⟨"zone", .equals, ["x"], by decide, by decide⟩, by decide, by decide,
    rfl⟩

/-- Two blocks as the last closures: the plain spelling, and the one with `label`. -/
def World.pushZones (w : World) : World :=
  { w with
    closures := (w.closures.push ⟨["q"], [Clause.plain zone].map (Clause.stmt "q"), []⟩).push
      ⟨["q"], [Clause.matched zone.labelled].map (Clause.stmt "q"), []⟩ }

theorem World.pushZones_extends (w : World) : w.Extends (2 ≤ ·) w.pushZones :=
  (World.Extends.pushClosure w ⟨["q"], [Clause.plain zone].map (Clause.stmt "q"), []⟩).trans
    (.pushClosure _ ⟨["q"], [Clause.matched zone.labelled].map (Clause.stmt "q"), []⟩)

def zoneWorld : World := (Engine.installed default).pushZones

def zonePlain : Nat := (Engine.installed default).closures.size

def zoneLabelled : Nat := (Engine.installed default).closures.size + 1

theorem zoneWorld_ready :
    zoneWorld.Intact ∧ zoneWorld.host = some default ∧
      zoneWorld.closures[zonePlain]? =
        some ⟨["q"], [Clause.plain zone].map (Clause.stmt "q"), []⟩ ∧
      zoneWorld.closures[zoneLabelled]? =
        some ⟨["q"], [Clause.matched zone.labelled].map (Clause.stmt "q"), []⟩ := by
  obtain ⟨hintact, hhost⟩ := installed_intact default
  have hext := World.pushZones_extends (Engine.installed default)
  refine ⟨hintact.extends hext, hext.host.trans hhost, ?_, ?_⟩
  · rw [zoneWorld, World.pushZones, zonePlain, Array.getElem?_push, if_neg (by simp),
      Array.getElem?_push, if_pos rfl]
  · rw [zoneWorld, World.pushZones, zoneLabelled, Array.getElem?_push, if_pos (by simp)]

/-- The operands of `zone` fit it in either spelling. -/
theorem zone_fits [Library] (e : Clause) (he : e = .plain zone ∨ e = .matched zone.labelled) :
    e.OperandsFit (callAt (0 + 1)) zoneWorld "q" [] := by
  have hfit : zone.labelled.OperandsFit (callAt (0 + 1)) zoneWorld "q" [] :=
    operandsFit_of_written (by decide) zoneWorld
  rcases he with rfl | rfl
  · exact hfit
  · exact hfit

/-- What a cluster in memory was asked to list, the latest first. -/
def World.asked (w : World) : List ListOptions :=
  match w.host.map Host.cluster with
  | some (.store s) => s.listed.map (·.2)
  | _ => []

theorem World.AsksFor.asked [Library] {o : ListOptions} {r : Resource}
    (h : w.AsksFor depth id r default o) :
    ∃ vs w', (callAt depth (.host (.list r)) [.closure id]).run w = .ok vs w' ∧ w'.asked = [o] := by
  have hgives : (callAt depth (.host (.list r)) [.closure id]).Gives w fun _ w' =>
      w'.host = some { (default : Host) with cluster := ((default : Host).listed r o).2 } := by
    refine h.mono (fun _ _ hend => ?_) fun _ hend => ?_
    · obtain ⟨items, i, -, -, -, hhost⟩ := hend
      exact hhost
    · obtain ⟨⟨f, hf⟩, -⟩ := hend
      cases hf
  obtain ⟨vs, w', hrun, hhost⟩ := hgives.exists_ok
  refine ⟨vs, w', hrun, ?_⟩
  rw [World.asked, hhost]
  rfl

open Library.Standard

/-- The two spellings do not ask for the same: the member is compared as a field, too. -/
theorem zone_asked :
    (∃ vs w', (callAt 3 (.host (.list .pod)) [.closure zonePlain]).run zoneWorld = .ok vs w' ∧
      w'.asked = [⟨"zone=x", "zone==x"⟩]) ∧
    ∃ vs w', (callAt 3 (.host (.list .pod)) [.closure zoneLabelled]).run zoneWorld = .ok vs w' ∧
      w'.asked = [⟨"zone=x", ""⟩] := by
  obtain ⟨hintact, hhost, hplain, hlabelled⟩ := zoneWorld_ready
  obtain ⟨labels, fields, hlabels, hfields, hasks⟩ :=
    clauses_ask .pod hintact hhost hplain (by decide)
      fun e he => zone_fits e (Or.inl (List.mem_singleton.1 he))
  obtain ⟨labels', fields', hlabels', hfields', hasks'⟩ :=
    clauses_ask .pod hintact hhost hlabelled (by decide)
      fun e he => zone_fits e (Or.inr (List.mem_singleton.1 he))
  cases (show Except.ok "zone=x" = Except.ok labels from hlabels)
  cases (show Except.ok "zone==x" = Except.ok fields from hfields)
  cases (show Except.ok "zone=x" = Except.ok labels' from hlabels')
  cases (show Except.ok "" = Except.ok fields' from hfields')
  exact ⟨hasks.asked, hasks'.asked⟩

theorem spellings_ask_zone :
    zone.name ∉ wellKnownKeys ∧ zone.ComparesFields ∧
      zoneWorld.AsksFor 3 zoneLabelled .pod default ⟨"zone=x", ""⟩ ∧
      zoneWorld.AsksFor 3 zonePlain .pod default ⟨"zone=x", "zone==x"⟩ := by
  obtain ⟨hintact, hhost, hplain, hlabelled⟩ := zoneWorld_ready
  have hname : zone.name ∉ wellKnownKeys := by decide
  have hcompares : zone.ComparesFields := by decide
  obtain ⟨labels, fields, hlabels, hfields, hasks, -, hboth, -⟩ :=
    spellings_ask .pod hintact hhost [] [] zone hplain hlabelled (by simp)
      fun e he => zone_fits e (Or.inl (List.mem_singleton.1 he))
  obtain ⟨both, hrender, hasks'⟩ := hboth hname hcompares
  cases (show Except.ok "zone=x" = Except.ok labels from hlabels)
  cases (show Except.ok "" = Except.ok fields from hfields)
  cases (show Except.ok "zone==x" = Except.ok both from hrender)
  exact ⟨hname, hcompares, hasks, hasks'⟩

end

end ClusterScript.Script
