import ClusterScript.Proofs.Selector.FieldMeaning

/-!
# What is written into a field selector is read out of it

`render` writes the terms of a field selector with commas between them;
`FieldTerm.parse?` reads one term back, and `unsupported` reads all of them to
name the paths that a resource does not know. The reader drops blanks around
path and value and tries three spellings of the sign over the whole term, so
what it finds is what was written where key and values are trimmed and free of
the characters that separate them. A value may begin with `=` or hold `==`.

* `parse?_text`: one term is read as it was written.
* `terms_read_back`: all terms come back, one for each value, in order, and
  the paths that are reported are the keys that the resource does not know.
-/
namespace ClusterScript.Selector

open Text

namespace Expression

/-- The comparisons that an expression asks for, one with each value. -/
def terms (e : Expression) : List FieldTerm :=
  e.values.map fun v =>
    ⟨e.key, if e.operator = .notEquals ∨ e.operator = .notIn then .unequal else .equal, v⟩

/-- Neither the key nor a value has blanks at its ends. -/
def Trimmed (e : Expression) : Prop := trim e.key = e.key ∧ ∀ v ∈ e.values, trim v = v

instance (e : Expression) : Decidable e.Trimmed :=
  @instDecidableAnd _ _ inferInstance (List.decidableBAll _ _)

end Expression

/-- Whether a term can be told apart from its neighbours and its parts from each other. -/
structure FieldTerm.Readable (t : FieldTerm) : Prop where
  path_not_blank : blank t.path = false
  path_trimmed : trim t.path = t.path
  path_apart : ∀ c ∈ t.path.toList, c ≠ ',' ∧ c ≠ '=' ∧ c ≠ '!'
  value_trimmed : trim t.value = t.value
  value_apart : ',' ∉ t.value.toList ∧ ¬ "!=".toList <:+: t.value.toList

section

variable {t : FieldTerm} {terms : List FieldTerm} {e : Expression} {es : List Expression}
variable {resource : String} {known : List String}

/-! ## One term -/

namespace FieldTerm.Readable

theorem path_ne_nil (h : t.Readable) : t.path.toList ≠ [] := by
  intro hnil
  have hblank := h.path_not_blank
  rw [blank, hnil] at hblank
  cases hblank

theorem comma_notMem (h : t.Readable) : ',' ∉ t.text.toList := by
  have hpath : ',' ∉ t.path.toList := fun hc => (h.path_apart ',' hc).1 rfl
  have hsign : ',' ∉ t.comparison.sign.toList := by cases t.comparison <;> decide
  simp only [FieldTerm.text, String.toList_append, List.mem_append, not_or]
  exact ⟨⟨hpath, hsign⟩, h.value_apart.1⟩

/-- The text of a term has no blanks at its ends: it begins with the path, and it ends with the
value or, if that is empty, with the sign. -/
theorem trim_text (h : t.Readable) : trim t.text = t.text := by
  have hhead := head_of_trimChars_eq (trimChars_of_trim h.path_trimmed)
  have hlast := getLast_of_trimChars_eq (trimChars_of_trim h.value_trimmed)
  have hsign : ∀ c ∈ t.comparison.sign.toList.getLast?, isBlank c = false := by
    cases t.comparison <;> simp [Comparison.sign, isBlank]
  have hsignNe : t.comparison.sign.toList ≠ [] := by cases t.comparison <;> decide
  have htext : t.text.toList =
      t.path.toList ++ ([] ++ (t.comparison.sign.toList ++ t.value.toList)) := by
    simp [FieldTerm.text]
  rw [trim, htext, trimChars_append hhead ?_ h.path_ne_nil (by simp [hsignNe]), ← htext,
    String.ofList_toList]
  intro c hc
  rw [List.getLast?_append, Option.mem_def] at hc
  cases hv : t.value.toList.getLast? with
  | none =>
    rw [hv, Option.none_or] at hc
    exact hsign c hc
  | some d =>
    rw [hv, Option.some_or] at hc
    exact hlast c (hv.trans hc)

end FieldTerm.Readable

/-- One term is read as it was written. -/
theorem parse?_text (h : t.Readable) : FieldTerm.parse? t.text = some t := by
  have hsides := sides?_text t (fun c hc => (h.path_apart c hc).2) h.value_apart.2
  rw [FieldTerm.parse?, h.trim_text, hsides]
  simp [h.path_not_blank, h.path_trimmed, h.value_trimmed]

/-- A term that can be read is reported exactly if the resource does not know its path. -/
theorem unsupportedTerm?_text (h : t.Readable) (hknown : fieldTable.lookup resource = some known) :
    unsupportedTerm? resource t.text = if t.path ∈ known then none else some t.path := by
  rw [unsupportedTerm?, parse?_text h]
  simp [isSupported, supportedFields, hknown]

theorem blank_text (h : t.Readable) : blank t.text = false := by
  obtain ⟨c, path, hpath⟩ := List.exists_cons_of_ne_nil h.path_ne_nil
  have hc := head_of_trimChars_eq (trimChars_of_trim h.path_trimmed) c (by simp [hpath])
  simp [blank, FieldTerm.text, hpath, hc]

/-! ## The terms between the commas -/

theorem splitOn_join_text (h : ∀ t ∈ terms, t.Readable) (hne : terms ≠ []) :
    splitOn ',' (join "," (terms.map FieldTerm.text)) = terms.map FieldTerm.text :=
  splitOn_join (by simpa using hne) (List.forall_mem_map.2 fun t ht => (h t ht).comma_notMem)

/-- All terms of a row are read as they were written. -/
theorem map_parse?_join (h : ∀ t ∈ terms, t.Readable) (hne : terms ≠ []) :
    (splitOn ',' (join "," (terms.map FieldTerm.text))).map FieldTerm.parse? =
      terms.map some := by
  rw [splitOn_join_text h hne, List.map_map]
  refine List.map_congr_left fun t ht => ?_
  rw [Function.comp_apply, parse?_text (h t ht)]

/-- An empty row is an empty text, in which no term is read. -/
theorem filterMap_parse?_join (h : ∀ t ∈ terms, t.Readable) :
    (splitOn ',' (join "," (terms.map FieldTerm.text))).filterMap FieldTerm.parse? = terms := by
  by_cases hne : terms = []
  · subst hne
    rfl
  · rw [splitOn_join_text h hne, List.filterMap_map]
    refine (List.filterMap_congr fun t ht => ?_).trans List.filterMap_some
    rw [Function.comp_apply, parse?_text (h t ht)]

/-- The check reports the paths of a row that the resource does not know, in order. -/
theorem unsupported_join (h : ∀ t ∈ terms, t.Readable)
    (hknown : fieldTable.lookup resource = some known) :
    unsupported resource (join "," (terms.map FieldTerm.text)) =
      (terms.map FieldTerm.path).filter (· ∉ known) := by
  rw [unsupported, hknown, Option.isNone_some, if_neg Bool.false_ne_true]
  by_cases hne : terms = []
  · subst hne
    rfl
  · have hkept : (terms.map FieldTerm.text).filter (fun part => !blank part) =
        terms.map FieldTerm.text :=
      List.filter_eq_self.2 (List.forall_mem_map.2 fun t ht => by simp [blank_text (h t ht)])
    rw [splitOn_join_text h hne, hkept, List.filterMap_map, List.filter_map,
      ← List.filterMap_eq_filter, List.map_filterMap]
    refine List.filterMap_congr fun t ht => ?_
    rw [Function.comp_apply, unsupportedTerm?_text (h t ht) hknown]
    by_cases hpath : t.path ∈ known <;> simp [Option.guard, hpath]

/-! ## The terms of expressions -/

theorem terms_readable (hsep : e.Separable) (htrim : e.Trimmed) : ∀ t ∈ e.terms, t.Readable := by
  intro t ht
  obtain ⟨v, hv, rfl⟩ := List.mem_map.1 ht
  exact ⟨e.key_not_blank, htrim.1, hsep.1, htrim.2 v hv, hsep.2 v hv⟩

theorem fieldTerms_eq (ho : e.operator ≠ .present) : e.fieldTerms = .ok e.terms := by
  rw [Expression.fieldTerms, Expression.terms]
  cases hop : e.operator with
  | present => exact absurd hop ho
  | equals | isIn => rfl
  | notEquals | notIn => rfl

theorem allFieldTerms_eq (ho : ∀ e ∈ es, e.operator ≠ .present) :
    allFieldTerms es = .ok (es.flatMap Expression.terms) := by
  induction es with
  | nil => rfl
  | cons e es ih =>
    obtain ⟨hfirst, hrest⟩ := List.forall_mem_cons.1 ho
    rw [allFieldTerms, fieldTerms_eq hfirst, ih hrest]
    rfl

theorem terms_ne_nil (ho : e.operator ≠ .present) : e.terms ≠ [] := by
  rw [Expression.terms, Ne, List.map_eq_nil_iff]
  exact fun hnil => ho (e.values_fit.2 hnil)

theorem flatMap_terms_path (es : List Expression) :
    (es.flatMap Expression.terms).map FieldTerm.path =
      es.flatMap fun e => e.values.map fun _ => e.key := by
  rw [List.map_flatMap]
  simp [Expression.terms, Function.comp_def]

end

/-- **Field terms come back.** The text of a list of field expressions, cut at the commas, reads
as the comparisons that the expressions ask for, one for each value, in order. The check of it
against a resource that is known reports the keys that the resource does not know, once for each
value and in order; of an unknown resource it reports nothing. -/
theorem terms_read_back (es : List Expression) (hpresent : ∀ e ∈ es, e.operator ≠ .present)
    (hes : ∀ e ∈ es, e.Separable ∧ e.Trimmed) :
    ∃ text, render .field es = .ok text ∧
      (splitOn ',' text).filterMap FieldTerm.parse? = es.flatMap Expression.terms ∧
      (es ≠ [] →
        (splitOn ',' text).map FieldTerm.parse? = (es.flatMap Expression.terms).map some) ∧
      (∀ resource known, fieldTable.lookup resource = some known →
        unsupported resource text =
          (es.flatMap fun e => e.values.map fun _ => e.key).filter (· ∉ known)) ∧
      ∀ resource, fieldTable.lookup resource = none → unsupported resource text = [] := by
  have hreadable : ∀ t ∈ es.flatMap Expression.terms, t.Readable := by
    intro t ht
    obtain ⟨e, he, hte⟩ := List.mem_flatMap.1 ht
    exact terms_readable (hes e he).1 (hes e he).2 t hte
  refine ⟨join "," ((es.flatMap Expression.terms).map FieldTerm.text), ?_,
    filterMap_parse?_join hreadable, fun hne => map_parse?_join hreadable ?_,
    fun resource known hknown => ?_, fun resource hunknown => ?_⟩
  · rw [render, allFieldTerms_eq hpresent]
    rfl
  · obtain ⟨e, he⟩ := List.exists_mem_of_ne_nil es hne
    exact fun hnil => terms_ne_nil (hpresent e he) (List.flatMap_eq_nil_iff.1 hnil e he)
  · rw [unsupported_join hreadable hknown, flatMap_terms_path]
  · rw [unsupported, hunknown]
    rfl

theorem hostIP_not_blank : Text.blank "status.hostIP" = false := by decide

/-- Values that begin with the sign or hold it, under a key that pods cannot be selected by, and
a value that is empty. -/
def misleading : List Expression :=
  [⟨"status.hostIP", .notIn, ["=", "a==b", "!"], hostIP_not_blank, by decide⟩,
    ⟨"status.phase", .equals, [""], phase_not_blank, by decide⟩]

theorem terms_read_back_misleading :
    (∀ e ∈ misleading, e.operator ≠ .present) ∧ (∀ e ∈ misleading, e.Separable ∧ e.Trimmed) ∧
      ∃ text, render .field misleading = .ok text ∧
        (splitOn ',' text).filterMap FieldTerm.parse? =
          [⟨"status.hostIP", .unequal, "="⟩, ⟨"status.hostIP", .unequal, "a==b"⟩,
            ⟨"status.hostIP", .unequal, "!"⟩, ⟨"status.phase", .equal, ""⟩] ∧
        unsupported "pods" text = ["status.hostIP", "status.hostIP", "status.hostIP"] := by
  have hpresent : ∀ e ∈ misleading, e.operator ≠ .present := by decide
  have hsound : ∀ e ∈ misleading, e.Separable ∧ e.Trimmed := by decide
  obtain ⟨text, htext, hterms, -, hunsupported, -⟩ := terms_read_back misleading hpresent hsound
  refine ⟨hpresent, hsound, text, htext, hterms.trans (by decide), ?_⟩
  exact (hunsupported "pods" _ rfl).trans (by decide)

end ClusterScript.Selector
