import ClusterScript.Proofs.Selector.Meaning
import ClusterScript.Proofs.Text.Cutting
import Mathlib.Data.List.Infix

/-!
# Field selectors ask for all values at once

The cluster reads a field selector as a row of comparisons that must all hold.
`render` writes one comparison for each value of an expression, so an
expression with several values asks for each of them. Tests against values
mean that; a test for one of several different values does not, and selects
nothing (`fieldsHold_render_iff`).

* `FieldsHold`: a selector text, read against the fields of an object.
* `sides?_text`: a written comparison is read as it was written.
-/
namespace ClusterScript.Selector

open Text

/-! ## Reading -/

/-- Whether a comparison with a value accepts the text that was found under a path. -/
def Comparison.Accepts (c : Comparison) (value : String) (found : Option String) : Prop :=
  match c with
  | .equal => found = some value
  | .unequal => found ≠ some value

instance (c : Comparison) (value : String) (found : Option String) :
    Decidable (c.Accepts value found) :=
  match c with
  | .equal => inferInstanceAs (Decidable (found = some value))
  | .unequal => inferInstanceAs (Decidable (found ≠ some value))

/-- Whether one term holds; a text that is no comparison does not. -/
def FieldHolds (term : String) (read : String → Option String) : Prop :=
  match FieldTerm.sides? term with
  | some (path, c, value) => c.Accepts value (read path)
  | none => False

instance (term : String) (read : String → Option String) : Decidable (FieldHolds term read) := by
  unfold FieldHolds
  exact match FieldTerm.sides? term with
  | some (path, c, value) => inferInstanceAs (Decidable (c.Accepts value (read path)))
  | none => inferInstanceAs (Decidable False)

/-- Whether a field selector holds where `read` gives the text under a path: all terms between
the commas do. -/
def FieldsHold (text : String) (read : String → Option String) : Prop :=
  ∀ term ∈ splitOn ',' text, term ≠ "" → FieldHolds term read

instance (text : String) (read : String → Option String) : Decidable (FieldsHold text read) :=
  inferInstanceAs (Decidable (∀ term ∈ splitOn ',' text, term ≠ "" → FieldHolds term read))

namespace Expression

/-- Key and values can be told from the signs between them. -/
def Separable (e : Expression) : Prop :=
  (∀ c ∈ e.key.toList, c ≠ ',' ∧ c ≠ '=' ∧ c ≠ '!') ∧
    ∀ v ∈ e.values, ',' ∉ v.toList ∧ ¬ "!=".toList <:+: v.toList

instance (e : Expression) : Decidable e.Separable :=
  @instDecidableAnd _ _ (List.decidableBAll _ _) (List.decidableBAll _ _)

/-- An expression that does not leave a choice between different values. -/
def Definite (e : Expression) : Prop :=
  e.operator = .equals ∨ e.operator = .isIn → ∀ v ∈ e.values, ∀ w ∈ e.values, v = w

instance (e : Expression) : Decidable e.Definite :=
  inferInstanceAs (Decidable (_ → ∀ v ∈ e.values, ∀ w ∈ e.values, v = w))

/-- Whether an expression holds with each of its values alone. -/
def HoldsThroughout (e : Expression) (read : String → Option String) : Prop :=
  ∀ v ∈ e.values, e.operator.Accepts [v] (read e.key)

end Expression

section

variable {term path value : String} {c : Comparison} {o : Operator} {found : Option String}
variable {read : String → Option String} {e : Expression}

/-! ## Terms -/

/-- A comparison is read as it was written. -/
theorem sides?_text (t : FieldTerm) (hpath : ∀ c ∈ t.path.toList, c ≠ '=' ∧ c ≠ '!')
    (hvalue : ¬ "!=".toList <:+: t.value.toList) :
    FieldTerm.sides? t.text = some (t.path, t.comparison, t.value) := by
  obtain ⟨path, c, value⟩ := t
  have hequal : '=' ∉ path.toList := fun h => (hpath '=' h).1 rfl
  have hbang : '!' ∉ path.toList := fun h => (hpath '!' h).2 rfl
  have hunequalSign : "!=".toList = '!' :: ['='] := rfl
  have hequalSign : "==".toList = '=' :: ['='] := rfl
  cases c with
  | unequal =>
    have htext : (FieldTerm.text ⟨path, .unequal, value⟩).toList =
        path.toList ++ ('!' :: ['='] ++ value.toList) := by
      simp [FieldTerm.text, Comparison.sign]
    have hsplit : splitOnce "!=" (FieldTerm.text ⟨path, .unequal, value⟩) = some (path, value) := by
      rw [splitOnce_eq_map, htext, hunequalSign, splitOnceChars_append hbang]
      simp [String.ofList_toList]
    rw [FieldTerm.sides?, hsplit]
  | equal =>
    have htext : (FieldTerm.text ⟨path, .equal, value⟩).toList =
        path.toList ++ ('=' :: ['='] ++ value.toList) := by
      simp [FieldTerm.text, Comparison.sign]
    -- the other sign stands neither in the path, nor across the sign, nor in the value
    have hunequal : splitOnce "!=" (FieldTerm.text ⟨path, .equal, value⟩) = none := by
      rw [hunequalSign] at hvalue
      rw [splitOnce_eq_map, htext, hunequalSign, splitOnceChars_skip hbang]
      simp only [List.cons_append, List.nil_append]
      rw [splitOnceChars_pass (by simp [List.isPrefixOf]),
        splitOnceChars_pass (by simp [List.isPrefixOf]),
        splitOnceChars_eq_none_of_not_infix (by simp) hvalue]
      rfl
    have hsplit : splitOnce "==" (FieldTerm.text ⟨path, .equal, value⟩) = some (path, value) := by
      rw [splitOnce_eq_map, htext, hequalSign, splitOnceChars_append hequal]
      simp [String.ofList_toList]
    rw [FieldTerm.sides?, hunequal, hsplit]

theorem text_ne_empty (t : FieldTerm) : t.text ≠ "" := by
  intro h
  have hlist := congrArg String.toList h
  cases hc : t.comparison <;> simp [FieldTerm.text, hc, Comparison.sign] at hlist

/-- An operator that fields know accepts one value as its comparison does. -/
theorem comparison_accepts (h : Expression.comparison? o = some c) :
    c.Accepts value found ↔ o.Accepts [value] found := by
  cases o <;> cases h <;> simp [Comparison.Accepts, Operator.Accepts]

theorem exists_comparison (h : o ≠ .present) : ∃ c, Expression.comparison? o = some c := by
  cases o with
  | present => exact absurd rfl h
  | _ => exact ⟨_, rfl⟩

/-! ## Expressions -/

/-- The terms of an expression are sound to read, and they all hold where the expression does with
each value. -/
theorem fieldTerms_ok (ho : e.operator ≠ .present) (hsep : e.Separable) :
    ∃ terms, e.fieldTerms = .ok terms ∧ (∀ t ∈ terms, ',' ∉ t.text.toList) ∧
      ∀ read, (∀ t ∈ terms, FieldHolds t.text read) ↔ e.HoldsThroughout read := by
  obtain ⟨hkey, hvalues⟩ := hsep
  obtain ⟨c, hc⟩ := exists_comparison ho
  refine ⟨e.values.map fun v => ⟨e.key, c, v⟩, by rw [Expression.fieldTerms, hc], ?_, ?_⟩
  · rw [List.forall_mem_map]
    intro v hv
    have hcomma : ',' ∉ e.key.toList := fun h => (hkey ',' h).1 rfl
    have hsign : ',' ∉ c.sign.toList := by cases c <;> decide
    simp only [FieldTerm.text, String.toList_append, List.mem_append, not_or]
    exact ⟨⟨hcomma, hsign⟩, (hvalues v hv).1⟩
  · intro read
    rw [List.forall_mem_map]
    refine forall₂_congr fun v hv => ?_
    rw [FieldHolds, sides?_text _ (fun c hc => (hkey c hc).2) (hvalues v hv).2]
    exact comparison_accepts hc

/-- A definite expression holds with each value exactly where it holds. -/
theorem Expression.Definite.holdsThroughout_iff (h : e.Definite) (ho : e.operator ≠ .present) :
    e.HoldsThroughout read ↔ e.Holds read := by
  obtain ⟨v, rest, hvalues⟩ := e.values_cons ho
  unfold Definite at h
  unfold HoldsThroughout Holds
  cases hop : e.operator with
  | present => exact absurd hop ho
  | notEquals | notIn => simp [Operator.Accepts]
  | equals | isIn =>
    have hsame : ∀ w ∈ e.values, w = v := fun w hw => h (by simp [hop]) w hw v (by simp [hvalues])
    simp only [Operator.Accepts, List.mem_singleton, exists_eq_left]
    constructor
    · exact fun hall => ⟨v, by simp [hvalues], hall v (by simp [hvalues])⟩
    · rintro ⟨w, hw, hread⟩ x hx
      rw [hread, hsame w hw, hsame x hx]

/-- Different values are not there at once. -/
theorem Expression.not_holdsThroughout (h : ¬ e.Definite) : ¬ e.HoldsThroughout read := by
  simp only [Definite, Classical.not_imp, Classical.not_forall] at h
  obtain ⟨hop, v, hv, w, hw, hne⟩ := h
  intro hall
  have hfound : ∀ x ∈ e.values, read e.key = some x := by
    intro x hx
    have haccepts := hall x hx
    rcases hop with hop | hop <;> rw [hop] at haccepts <;> simpa [Operator.Accepts] using haccepts
  exact hne (Option.some.inj ((hfound v hv).symm.trans (hfound w hw)))

/-! ## Whole selectors -/

theorem allFieldTerms_ok {es : List Expression}
    (hes : ∀ e ∈ es, e.operator ≠ .present ∧ e.Separable) :
    ∃ terms, allFieldTerms es = .ok terms ∧ (∀ t ∈ terms, ',' ∉ t.text.toList) ∧
      ∀ read, (∀ t ∈ terms, FieldHolds t.text read) ↔ ∀ e ∈ es, e.HoldsThroughout read := by
  induction es with
  | nil => exact ⟨[], rfl, by simp, by simp⟩
  | cons e es ih =>
    obtain ⟨⟨ho, hsep⟩, hrest⟩ := List.forall_mem_cons.1 hes
    obtain ⟨first, hfirst, hfirstComma, hfirstHolds⟩ := fieldTerms_ok ho hsep
    obtain ⟨more, hmore, hmoreComma, hmoreHolds⟩ := ih hrest
    refine ⟨first ++ more, ?_, List.forall_mem_append.2 ⟨hfirstComma, hmoreComma⟩, fun read => ?_⟩
    · rw [allFieldTerms, hfirst, hmore]
      rfl
    · rw [List.forall_mem_append, List.forall_mem_cons, hfirstHolds, hmoreHolds]

theorem fieldsHold_join (terms : List FieldTerm) (hcomma : ∀ t ∈ terms, ',' ∉ t.text.toList) :
    FieldsHold (join "," (terms.map FieldTerm.text)) read ↔
      ∀ t ∈ terms, FieldHolds t.text read := by
  cases terms with
  | nil => simp [FieldsHold, join, splitOn, splitOnChars]
  | cons t terms =>
    have hsplit : splitOn ',' (join "," ((t :: terms).map FieldTerm.text)) =
        (t :: terms).map FieldTerm.text := splitOn_join (by simp) (List.forall_mem_map.2 hcomma)
    rw [FieldsHold, hsplit, List.forall_mem_map]
    exact forall₂_congr fun t _ => by simp [text_ne_empty]

end

/-- **Fields.** A rendered selector selects an object exactly if every expression holds of its
fields with each of its values alone. This is what the expressions mean where none of them leaves
a choice between different values; a selector with such a choice selects nothing. -/
theorem fieldsHold_render_iff (es : List Expression)
    (hes : ∀ e ∈ es, e.operator ≠ .present ∧ e.Separable) :
    ∃ text, render .field es = .ok text ∧
      (∀ read, FieldsHold text read ↔ ∀ e ∈ es, e.HoldsThroughout read) ∧
      ((∀ e ∈ es, e.Definite) → ∀ read, FieldsHold text read ↔ ∀ e ∈ es, e.Holds read) ∧
      ((∃ e ∈ es, ¬ e.Definite) → ∀ read, ¬ FieldsHold text read) := by
  obtain ⟨terms, hterms, hcomma, hholds⟩ := allFieldTerms_ok hes
  have hthroughout : ∀ read, FieldsHold (join "," (terms.map FieldTerm.text)) read ↔
      ∀ e ∈ es, e.HoldsThroughout read := fun read =>
    (fieldsHold_join terms hcomma).trans (hholds read)
  refine ⟨join "," (terms.map FieldTerm.text), ?_, hthroughout, fun hdefinite read => ?_, ?_⟩
  · rw [render, hterms]
    rfl
  · rw [hthroughout]
    exact forall₂_congr fun e he => (hdefinite e he).holdsThroughout_iff (hes e he).1
  · rintro ⟨e, he, hchoice⟩ read hfields
    exact e.not_holdsThroughout hchoice ((hthroughout read).1 hfields e he)

theorem phase_not_blank : Text.blank "status.phase" = false := by decide

theorem nodeName_not_blank : Text.blank "spec.nodeName" = false := by decide

/-- Pods in one of two phases. -/
def runningOrPending : Expression :=
  ⟨"status.phase", .isIn, ["Running", "Pending"], phase_not_blank, by decide⟩

/-- A running pod is in one of the two phases, but the selector does not select it. -/
theorem fieldsHold_runningOrPending :
    ∃ text, render .field [runningOrPending] = .ok text ∧
      runningOrPending.Holds (fun _ => some "Running") ∧
      ¬ FieldsHold text fun _ => some "Running" :=
  ⟨"status.phase==Running,status.phase==Pending", rfl, by decide, by decide⟩

/-- Running pods on neither of two nodes. -/
def runningElsewhere : List Expression :=
  [⟨"status.phase", .equals, ["Running"], phase_not_blank, by decide⟩,
    ⟨"spec.nodeName", .notIn, ["n1", "n2"], nodeName_not_blank, by decide⟩]

theorem fieldsHold_runningElsewhere :
    (∀ e ∈ runningElsewhere, e.operator ≠ .present ∧ e.Separable) ∧
      (∀ e ∈ runningElsewhere, e.Definite) ∧
      ∃ text, render .field runningElsewhere = .ok text ∧
        ∀ read, FieldsHold text read ↔ ∀ e ∈ runningElsewhere, e.Holds read := by
  have hsound : ∀ e ∈ runningElsewhere, e.operator ≠ .present ∧ e.Separable := by decide
  have hdefinite : ∀ e ∈ runningElsewhere, e.Definite := by decide
  obtain ⟨text, htext, -, hholds, -⟩ := fieldsHold_render_iff runningElsewhere hsound
  exact ⟨hsound, hdefinite, text, htext, hholds hdefinite⟩

end ClusterScript.Selector
