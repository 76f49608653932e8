import ClusterScript.Proofs.Selector.Meaning
import ClusterScript.Proofs.Text.Cutting
import ClusterScript.Selector.Labels

/-!
# Label selectors are read as they are meant

`render` writes a list of expressions and `holds` reads such a text against
the labels of an object. They share no code: the writer chooses among five
spellings by the number of values, the reader tries set tests, then signs,
then a bare key. For keys and values without blanks and without the signs
`( ) , = !` the two agree (`holds_render`).

* `terms_join`: whole terms come back from between the commas.
* `termHolds_label`: one term means its expression.
-/
namespace ClusterScript.Selector

open Text

/-- A character that is not used between keys and values: letters, digits, `.`, `_`, `-`, `/`
and all others but blanks and `( ) , = !`. -/
def Plain (c : Char) : Prop :=
  isBlank c = false ∧ c ≠ '(' ∧ c ≠ ')' ∧ c ≠ ',' ∧ c ≠ '=' ∧ c ≠ '!'

instance (c : Char) : Decidable (Plain c) :=
  inferInstanceAs (Decidable (_ ∧ _ ∧ _ ∧ _ ∧ _ ∧ _))

/-- A text of plain characters, or none. -/
def PlainText (t : String) : Prop := ∀ c ∈ t.toList, Plain c

instance (t : String) : Decidable (PlainText t) := List.decidableBAll _ _

/-- A non-empty text of plain characters. -/
def Word (t : String) : Prop := t ≠ "" ∧ ∀ c ∈ t.toList, Plain c

instance (t : String) : Decidable (Word t) :=
  @instDecidableAnd _ _ _ (List.decidableBAll _ _)

/-- Key and values are words. -/
def Expression.Worded (e : Expression) : Prop := Word e.key ∧ ∀ v ∈ e.values, Word v

instance (e : Expression) : Decidable e.Worded :=
  @instDecidableAnd _ _ _ (List.decidableBAll _ _)

/-- The text of a label of an object; a value that is no text counts as absent. -/
def labelOf (object : Json) (key : String) : Option String :=
  (((object.get "metadata").get "labels").get key).asString?

section

variable {c : Char} {cs rest read : List Char} {t : String}

theorem Plain.ne_blank (h : Plain c) : c ≠ ' ' := by
  rintro rfl
  exact absurd h.1 (by decide)

theorem PlainText.notMem (h : PlainText t) (hc : ¬ Plain c) : c ∉ t.toList :=
  fun hm => hc (h c hm)

theorem PlainText.notMem_blank (h : PlainText t) : ' ' ∉ t.toList :=
  h.notMem fun hp => hp.ne_blank rfl

theorem PlainText.trim (h : PlainText t) : trimChars t.toList = t.toList :=
  trimChars_self (fun c hc => (h c (List.mem_of_mem_head? hc)).1)
    fun c hc => (h c (List.mem_of_mem_getLast? hc)).1

theorem Word.plainText (h : Word t) : PlainText t := h.2

theorem Word.notMem (h : Word t) (hc : ¬ Plain c) : c ∉ t.toList := h.plainText.notMem hc

theorem Word.notMem_blank (h : Word t) : ' ' ∉ t.toList := h.plainText.notMem_blank

theorem Word.notMem_equal (h : Word t) : '=' ∉ t.toList := h.notMem (by simp [Plain])

theorem Word.notMem_bang (h : Word t) : '!' ∉ t.toList := h.notMem (by simp [Plain])

theorem Word.head_not_blank (h : Word t) : ∀ c ∈ t.toList.head?, isBlank c = false :=
  fun c hc => (h.2 c (List.mem_of_mem_head? hc)).1

theorem Word.last_not_blank (h : Word t) : ∀ c ∈ t.toList.getLast?, isBlank c = false :=
  fun c hc => (h.2 c (List.mem_of_mem_getLast? hc)).1

theorem Word.toList_ne_nil (h : Word t) : t.toList ≠ [] := fun hn =>
  h.1 (String.toList_eq_nil_iff.1 hn)

theorem Word.exists_cons (h : Word t) : ∃ c cs, t.toList = c :: cs ∧ Plain c := by
  obtain ⟨c, cs, hcs⟩ := List.exists_cons_of_ne_nil h.toList_ne_nil
  exact ⟨c, cs, hcs, h.2 c (by simp [hcs])⟩

theorem Word.not_blank (h : Word t) : blank t = false := by
  obtain ⟨c, cs, hcs, hc⟩ := h.exists_cons
  rw [blank, hcs, List.all_cons, hc.1, Bool.false_and]

theorem Word.trim (h : Word t) : trimChars t.toList = t.toList := h.plainText.trim

theorem Word.trim_text (h : Word t) : Text.trim t = t := by
  rw [Text.trim, h.trim, String.ofList_toList]

end

/-! ## Terms between commas -/

/-- Cutting never cuts inside of the text. -/
def Uncut (cs : List Char) : Prop :=
  ∀ read rest, cutTerms 0 read (cs ++ rest) = cutTerms 0 (cs.reverse ++ read) rest

/-- Characters that do not open, close or, at the outermost depth, cut a term. -/
theorem cutTerms_pass {depth : Int} {cs : List Char}
    (h : ∀ c ∈ cs, c ≠ '(' ∧ c ≠ ')' ∧ (c = ',' → depth ≠ 0)) (read rest : List Char) :
    cutTerms depth read (cs ++ rest) = cutTerms depth (cs.reverse ++ read) rest := by
  induction cs generalizing read with
  | nil => rfl
  | cons c cs ih =>
    obtain ⟨h1, h2, h3⟩ := h c (by simp)
    rw [List.cons_append, cutTerms, if_neg h1, if_neg h2, if_neg fun hc => h3 hc.1 hc.2,
      ih fun d hd => h d (by simp [hd])]
    simp

theorem Uncut.append {a b : List Char} (ha : Uncut a) (hb : Uncut b) : Uncut (a ++ b) := by
  intro read rest
  rw [List.append_assoc, ha, hb]
  simp

/-- What stands in parentheses is not cut. -/
theorem uncut_parenthesized {cs : List Char} (h : ∀ c ∈ cs, c ≠ '(' ∧ c ≠ ')') :
    Uncut ('(' :: (cs ++ [')'])) := by
  intro read rest
  rw [List.cons_append, cutTerms, if_pos rfl, List.append_assoc,
    cutTerms_pass fun c hc => ⟨(h c hc).1, (h c hc).2, fun _ => by decide⟩]
  simp [cutTerms]

theorem uncut_of_forall {cs : List Char} (h : ∀ c ∈ cs, c ≠ '(' ∧ c ≠ ')' ∧ c ≠ ',') :
    Uncut cs := fun _ _ =>
  cutTerms_pass (fun c hc => ⟨(h c hc).1, (h c hc).2.1, fun e => absurd e (h c hc).2.2⟩) _ _

theorem Word.uncut {t : String} (h : Word t) : Uncut t.toList :=
  uncut_of_forall fun c hc => ⟨(h.2 c hc).2.1, (h.2 c hc).2.2.1, (h.2 c hc).2.2.2.1⟩

theorem cutTerms_join : ∀ {parts : List String}, parts ≠ [] → (∀ t ∈ parts, Uncut t.toList) →
    cutTerms 0 [] (join "," parts).toList = parts.map String.toList
  | [], hne, _ => absurd rfl hne
  | [t], _, h => by
    have := h t (by simp) [] []
    simpa [join, cutTerms] using this
  | t :: u :: more, _, h => by
    rw [join_cons_cons, h t (by simp)]
    have ih := cutTerms_join (List.cons_ne_nil u more) fun x hx => h x (by simp [hx])
    simp [cutTerms, ih]

/-- Terms that are not cut, not empty and without blanks at their ends come back. -/
theorem terms_join {parts : List String} (hu : ∀ t ∈ parts, Uncut t.toList)
    (hne : ∀ t ∈ parts, t ≠ "") (ht : ∀ t ∈ parts, trimChars t.toList = t.toList) :
    terms (join "," parts) = parts := by
  by_cases hp : parts = []
  · subst hp
    rfl
  · have hmap : (parts.map String.toList).map (fun t => String.ofList (trimChars t)) = parts := by
      rw [List.map_map]
      refine (List.map_congr_left fun t h => ?_).trans (List.map_id parts)
      simp [ht t h, String.ofList_toList]
    rw [terms, cutTerms_join hp hu, hmap]
    exact List.filter_eq_self.2 fun t h => by simp [hne t h]

/-! ## Sets of values -/

/-- The values of a set as they stand between parentheses. -/
theorem map_trim_splitOn_join : ∀ {values : List String}, values ≠ [] →
    (∀ v ∈ values, PlainText v) →
    (splitOnChars ',' (join ", " values).toList).map (fun v => String.ofList (trimChars v)) =
      values
  | [], hne, _ => absurd rfl hne
  | [v], _, h => by
    have hv := h v (by simp)
    rw [join_singleton, splitOnChars_of_notMem (hv.notMem (by simp [Plain]))]
    simp [hv.trim, String.ofList_toList]
  | v :: w :: more, _, h => by
    have hv := h v (by simp)
    have ih := map_trim_splitOn_join (List.cons_ne_nil w more) fun x hx => h x (by simp [hx])
    obtain ⟨part, parts, hp, hcons⟩ :=
      splitOnChars_cons_ne (show ' ' ≠ ',' by decide) (join ", " (w :: more)).toList
    rw [join_cons_cons]
    have hsep : ", ".toList = [',', ' '] := rfl
    rw [hsep, List.cons_append, List.singleton_append,
      splitOnChars_append (hv.notMem (by simp [Plain])), hcons, List.map_cons, List.map_cons,
      trimChars_blank_cons (by decide), hv.trim, String.ofList_toList]
    rw [hp, List.map_cons] at ih
    rw [ih]

/-- The texts in a set have no parentheses around them. -/
theorem forall_join_values {values : List String} (h : ∀ v ∈ values, PlainText v) :
    ∀ c ∈ (join ", " values).toList, c ≠ '(' ∧ c ≠ ')' :=
  forall_join (by simp) fun v hv c hc => ⟨(h v hv c hc).2.1, (h v hv c hc).2.2.1⟩

theorem trimChars_parenthesized (cs : List Char) :
    trimChars ('(' :: (cs ++ [')'])) = '(' :: (cs ++ [')']) := by
  apply trimChars_self
  · intro c hc
    simp only [List.head?_cons, Option.mem_some_iff] at hc
    subst hc
    decide
  · intro c hc
    rw [← List.cons_append, List.getLast?_append] at hc
    simp only [List.getLast?_singleton, Option.some_or, Option.mem_some_iff] at hc
    subst hc
    decide

/-- A text that does not start with `a` loses only the `a` put before it. -/
theorem dropWhile_beq_cons {a : Char} {cs : List Char} (h : ∀ c ∈ cs.head?, c ≠ a) :
    (a :: cs).dropWhile (· == a) = cs := by
  cases cs with
  | nil => simp
  | cons c cs =>
    have hc : (c == a) = false := beq_eq_false_iff_ne.2 (h c rfl)
    simp [List.dropWhile, hc]

theorem setValues_text {values : List String} (hne : values ≠ [])
    (h : ∀ v ∈ values, PlainText v) {t : String}
    (ht : t.toList = '(' :: ((join ", " values).toList ++ [')'])) :
    setValues t = values := by
  have hp := forall_join_values h
  have hfront : ('(' :: ((join ", " values).toList ++ [')'])).dropWhile (· == '(') =
      (join ", " values).toList ++ [')'] := by
    apply dropWhile_beq_cons
    intro d hd
    rcases List.mem_append.1 (List.mem_of_mem_head? hd) with hd | hd
    · exact (hp d hd).1
    · rw [List.mem_singleton.1 hd]
      decide
  have hback : (')' :: (join ", " values).toList.reverse).dropWhile (· == ')') =
      (join ", " values).toList.reverse :=
    dropWhile_beq_cons fun d hd => (hp d (List.mem_reverse.1 (List.mem_of_mem_head? hd))).2
  rw [setValues, ht, trimChars_parenthesized, hfront, List.reverse_append,
    List.reverse_singleton, List.singleton_append, hback, List.reverse_reverse]
  exact map_trim_splitOn_join hne h

/-! ## The spellings of a term -/

theorem setText_toList (key word : String) (values : List String) :
    (Expression.setText key word values).toList =
      key.toList ++ (' ' :: (word.toList ++ [' ']) ++
        '(' :: ((join ", " values).toList ++ [')'])) := by
  simp [Expression.setText, toString]

/-- The words of set tests stand where the writer put them: a value that looks like one is
followed by a comma or a parenthesis, not by a blank. -/
theorem not_prefix_value {word v r : List Char} {c : Char} (hv : ' ' ∉ v) (hc : c ≠ ' ')
    (hw : c ∉ word) : (' ' :: (word ++ [' '])).isPrefixOf (' ' :: (v ++ c :: r)) = false := by
  rw [Bool.eq_false_iff, Ne, List.isPrefixOf_iff_prefix]
  rintro ⟨r', h⟩
  have h' : word ++ ' ' :: r' = v ++ c :: r := by simpa using h
  rcases List.append_eq_append_iff.1 h' with ⟨a, ha, hb⟩ | ⟨a, ha, hb⟩
  · cases a with
    | nil => exact hc (List.head_eq_of_cons_eq hb).symm
    | cons d a =>
      simp only [List.cons_append, List.cons.injEq] at hb
      exact hv (by simp [ha, ← hb.1])
  · cases a with
    | nil => exact hc (List.head_eq_of_cons_eq hb)
    | cons d a =>
      simp only [List.cons_append, List.cons.injEq] at hb
      exact hw (by simp [ha, ← hb.1])

theorem join_values_cons (v : String) (more : List String) :
    ∃ c r, (join ", " (v :: more)).toList ++ [')'] = v.toList ++ c :: r ∧
      (c = ',' ∨ c = ')') := by
  cases more with
  | nil => exact ⟨')', [], by rw [join_singleton], Or.inr rfl⟩
  | cons w more =>
    refine ⟨',', ' ' :: ((join ", " (w :: more)).toList ++ [')']), ?_, Or.inl rfl⟩
    rw [join_cons_cons]
    simp

/-- No set test begins among the values. -/
theorem splitOnceChars_values {word : List Char} (h1 : ',' ∉ word) (h2 : ')' ∉ word) :
    ∀ {values : List String}, values ≠ [] → (∀ v ∈ values, PlainText v) →
      splitOnceChars (' ' :: (word ++ [' '])) ((join ", " values).toList ++ [')']) = none
  | [], hne, _ => absurd rfl hne
  | [v], _, h => by
    have hv := (h v (by simp)).notMem_blank
    rw [join_singleton]
    exact splitOnceChars_eq_none (by simp [hv])
  | v :: w :: more, _, h => by
    have hv := (h v (by simp)).notMem_blank
    have hw := (h w (by simp)).notMem_blank
    have ih := splitOnceChars_values h1 h2 (List.cons_ne_nil w more)
      fun x hx => h x (by simp [hx])
    obtain ⟨c, r, hcr, hc⟩ := join_values_cons w more
    have hpass : (' ' :: (word ++ [' '])).isPrefixOf
        (' ' :: ((join ", " (w :: more)).toList ++ [')'])) = false := by
      rw [hcr]
      rcases hc with rfl | rfl
      · exact not_prefix_value hw (by decide) h1
      · exact not_prefix_value hw (by decide) h2
    have hsplit : (join ", " (v :: w :: more)).toList ++ [')'] =
        (v.toList ++ [',']) ++ ' ' :: ((join ", " (w :: more)).toList ++ [')']) := by
      rw [join_cons_cons]
      simp
    rw [hsplit, splitOnceChars_skip (by simp [hv]), splitOnceChars_pass hpass, ih]
    rfl

section

variable {e : Expression} {labels : Json}

theorem labelValue_word {key : String} (h : Word key) (labels : Json) :
    labelValue? labels key = (labels.get key).asString? := by
  rw [labelValue?, h.trim_text]

/-- Cutting a set test at its word gives the key and the set. -/
theorem splitOnce_setText {key : String} (h : Word key) (word : String) (values : List String) :
    splitOnce (" " ++ word ++ " ") (Expression.setText key word values) =
      some (key, String.ofList ('(' :: ((join ", " values).toList ++ [')']))) := by
  have hsep : (" " ++ word ++ " ").toList = ' ' :: (word.toList ++ [' ']) := by simp
  rw [splitOnce_eq_map, setText_toList, hsep,
    splitOnceChars_append h.notMem_blank]
  simp [String.ofList_toList]

/-- A test for membership is not taken for one against it. -/
theorem splitOnce_notin_setText_in {key : String} (h : Word key) {values : List String}
    (hne : values ≠ []) (hv : ∀ v ∈ values, PlainText v) :
    splitOnce " notin " (Expression.setText key "in" values) = none := by
  have hsep : " notin ".toList = ' ' :: ("notin".toList ++ [' ']) := rfl
  have hin : "in".toList = ['i', 'n'] := rfl
  have hvals := splitOnceChars_values (show ',' ∉ "notin".toList by decide) (by decide) hne hv
  rw [splitOnce_eq_map, setText_toList, hsep,
    splitOnceChars_skip h.notMem_blank, hin]
  simp only [List.cons_append, List.nil_append]
  rw [splitOnceChars_pass (by simp [List.isPrefixOf]),
    splitOnceChars_pass (by simp [List.isPrefixOf]),
    splitOnceChars_pass (by simp [List.isPrefixOf]),
    splitOnceChars_pass (by simp [List.isPrefixOf]),
    splitOnceChars_pass (by simp [List.isPrefixOf]), hvals]
  rfl

theorem termHolds_notin {key : String} (h : Word key) {values : List String}
    (hne : values ≠ []) (hv : ∀ v ∈ values, PlainText v) :
    termHolds (Expression.setText key "notin" values) labels = true ↔
      ∀ v ∈ values, (labels.get key).asString? ≠ some v := by
  have hs := splitOnce_setText h "notin" values
  rw [show (" " ++ "notin" ++ " " : String) = " notin " from rfl] at hs
  rw [termHolds, hs]
  simp only [labelValue_word h,
    setValues_text hne hv (String.toList_ofList)]
  cases (labels.get key).asString? with
  | none => simp
  | some x => simp; grind

theorem termHolds_in {key : String} (h : Word key) {values : List String}
    (hne : values ≠ []) (hv : ∀ v ∈ values, PlainText v) :
    termHolds (Expression.setText key "in" values) labels = true ↔
      ∃ v ∈ values, (labels.get key).asString? = some v := by
  have hs := splitOnce_setText h "in" values
  rw [show (" " ++ "in" ++ " " : String) = " in " from rfl] at hs
  rw [termHolds, splitOnce_notin_setText_in h hne hv, hs]
  simp only [labelValue_word h,
    setValues_text hne hv (String.toList_ofList)]
  cases (labels.get key).asString? with
  | none => simp
  | some x => simp

/-- A text without blanks is no set test. -/
theorem termHolds_of_notMem_blank {t : String} (h : ' ' ∉ t.toList) :
    termHolds t labels = comparisonHolds t labels := by
  have hnotin : splitOnce " notin " t = none := by
    rw [splitOnce_eq_map, show " notin ".toList = ' ' :: "notin ".toList from rfl,
      splitOnceChars_eq_none h]
    rfl
  have hin : splitOnce " in " t = none := by
    rw [splitOnce_eq_map, show " in ".toList = ' ' :: "in ".toList from rfl,
      splitOnceChars_eq_none h]
    rfl
  rw [termHolds, hnotin, hin]

theorem splitOnce_word_none {t sep : String} {c : Char} {word : List Char} (h : Word t)
    (hsep : sep.toList = c :: word) (hc : ¬ Plain c) : splitOnce sep t = none := by
  rw [splitOnce_eq_map, hsep, splitOnceChars_eq_none (h.notMem hc)]
  rfl

theorem termHolds_equal {key v : String} (h : Word key) (hv : Word v) :
    termHolds s!"{key}={v}" labels = true ↔ (labels.get key).asString? = some v := by
  have htext : (s!"{key}={v}" : String).toList = key.toList ++ '=' :: v.toList := by
    simp [toString]
  have hblank : ' ' ∉ (s!"{key}={v}" : String).toList := by
    rw [htext]
    simp [h.notMem_blank, hv.notMem_blank]
  have hunequal : splitOnce "!=" s!"{key}={v}" = none := by
    rw [splitOnce_eq_map, htext, show "!=".toList = '!' :: ['='] from rfl,
      splitOnceChars_eq_none]
    · rfl
    · simp [h.notMem_bang, hv.notMem_bang]
  -- the value does not start with a sign, so the double sign is not there
  have hdouble : splitOnce "==" s!"{key}={v}" = none := by
    obtain ⟨d, ds, hd, hplain⟩ := hv.exists_cons
    have hpass : ("==".toList).isPrefixOf ('=' :: v.toList) = false := by
      simp [hd, List.isPrefixOf, hplain.2.2.2.2.1.symm]
    rw [splitOnce_eq_map, htext]
    rw [show "==".toList = '=' :: ['='] from rfl] at hpass ⊢
    rw [splitOnceChars_skip h.notMem_equal, splitOnceChars_pass hpass,
      splitOnceChars_eq_none hv.notMem_equal]
    rfl
  have hsingle : splitOnce "=" s!"{key}={v}" = some (key, v) := by
    rw [splitOnce_eq_map, htext, show "=".toList = ['='] from rfl,
      show '=' :: v.toList = ['='] ++ v.toList from rfl, splitOnceChars_append h.notMem_equal]
    simp [String.ofList_toList]
  rw [termHolds_of_notMem_blank hblank, comparisonHolds, hunequal, hdouble, hsingle]
  simp [labelValue_word h, hv.trim_text]

/-- A selector of a single comparison. -/
theorem holds_equal {key v : String} (h : Word key) (hv : Word v) (labels : Json) :
    holds s!"{key}={v}" labels = true ↔ (labels.get key).asString? = some v := by
  have htext : (s!"{key}={v}" : String).toList = key.toList ++ ("=".toList ++ v.toList) := by
    simp [toString]
  have hone : terms (join "," [s!"{key}={v}"]) = [s!"{key}={v}"] := by
    apply terms_join <;> simp only [List.mem_singleton, forall_eq, htext]
    · exact h.uncut.append ((uncut_of_forall (by simp)).append hv.uncut)
    · intro hempty
      have hlist := congrArg String.toList hempty
      rw [htext] at hlist
      simp at hlist
    · exact trimChars_append h.head_not_blank hv.last_not_blank h.toList_ne_nil hv.toList_ne_nil
  rw [join_singleton] at hone
  rw [holds, hone]
  simpa using termHolds_equal h hv

theorem termHolds_unequal {key v : String} (h : Word key) (hv : Word v) :
    termHolds s!"{key}!={v}" labels = true ↔ (labels.get key).asString? ≠ some v := by
  have htext : (s!"{key}!={v}" : String).toList = key.toList ++ (['!', '='] ++ v.toList) := by
    simp [toString]
  have hblank : ' ' ∉ (s!"{key}!={v}" : String).toList := by
    rw [htext]
    simp [h.notMem_blank, hv.notMem_blank]
  have hsplit : splitOnce "!=" s!"{key}!={v}" = some (key, v) := by
    rw [splitOnce_eq_map, htext, show "!=".toList = '!' :: ['='] from rfl,
      splitOnceChars_append h.notMem_bang]
    simp [String.ofList_toList]
  rw [termHolds_of_notMem_blank hblank, comparisonHolds, hsplit]
  simp [labelValue_word h, hv.trim_text]

theorem termHolds_present {key : String} (h : Word key) :
    termHolds key labels = true ↔ (labels.get key).asString?.isSome = true := by
  have hnot : ∀ cs, key.toList ≠ '!' :: cs := fun cs hcs => h.notMem_bang (by simp [hcs])
  rw [termHolds_of_notMem_blank h.notMem_blank, comparisonHolds,
    splitOnce_word_none h (show "!=".toList = '!' :: ['='] from rfl) (by simp [Plain]),
    splitOnce_word_none h (show "==".toList = '=' :: ['='] from rfl) (by simp [Plain]),
    splitOnce_word_none h (show "=".toList = '=' :: [] from rfl) (by simp [Plain])]
  simp only [Option.none_or]
  rw [labelValue_word h]

/-- One term means its expression. -/
theorem termHolds_label (hw : e.Worded) :
    termHolds e.label labels = true ↔ e.Holds fun key => (labels.get key).asString? := by
  have hne : e.operator ≠ .present → e.values ≠ [] := fun h hv => h (e.values_fit.2 hv)
  obtain ⟨hk, hv⟩ := hw
  unfold Expression.Holds Expression.label
  cases ho : e.operator with
  | isIn => exact termHolds_in hk (hne (by simp [ho])) fun v hm => (hv v hm).plainText
  | notIn => exact termHolds_notin hk (hne (by simp [ho])) fun v hm => (hv v hm).plainText
  | present => exact termHolds_present hk
  | equals =>
    obtain ⟨v, more, hvs⟩ := e.values_cons (by simp [ho])
    rw [hvs] at hv ⊢
    cases more with
    | nil =>
      simp only [Operator.Accepts, List.mem_singleton, exists_eq_left]
      exact termHolds_equal hk (hv v (by simp))
    | cons w more => exact termHolds_in hk (by simp) fun v hm => (hv v hm).plainText
  | notEquals =>
    obtain ⟨v, more, hvs⟩ := e.values_cons (by simp [ho])
    rw [hvs] at hv ⊢
    cases more with
    | nil =>
      simp only [Operator.Accepts, List.mem_singleton, forall_eq]
      exact termHolds_unequal hk (hv v (by simp))
    | cons w more => exact termHolds_notin hk (by simp) fun v hm => (hv v hm).plainText

end

/-! ## Whole selectors -/

theorem word_in : Word "in" := by decide

theorem word_notin : Word "notin" := by decide

theorem uncut_setText {key word : String} (hk : Word key) (hw : Word word)
    {values : List String} (hv : ∀ v ∈ values, PlainText v) :
    Uncut (Expression.setText key word values).toList := by
  rw [setText_toList]
  have hblank : Uncut [' '] := uncut_of_forall (by simp)
  have hmiddle : Uncut (' ' :: (word.toList ++ [' '])) := hblank.append (hw.uncut.append hblank)
  exact hk.uncut.append (hmiddle.append (uncut_parenthesized (forall_join_values hv)))

theorem trim_setText {key : String} (hk : Word key) (word : String) (values : List String) :
    trimChars (Expression.setText key word values).toList =
      (Expression.setText key word values).toList := by
  rw [setText_toList]
  refine trimChars_append hk.head_not_blank ?_ hk.toList_ne_nil (by simp)
  intro c hc
  rw [← List.cons_append, List.getLast?_append] at hc
  simp only [List.getLast?_singleton, Option.some_or, Option.mem_some_iff] at hc
  subst hc
  decide

theorem setText_ne_empty (key word : String) (values : List String) :
    Expression.setText key word values ≠ "" := by
  intro h
  have hlist := congrArg String.toList h
  rw [setText_toList] at hlist
  simp at hlist

/-- Of sets of one value each, an object has every label with its value. -/
theorem holds_setTexts {pairs : List (String × String)}
    (h : ∀ p ∈ pairs, Word p.1 ∧ PlainText p.2) (labels : Json) :
    holds (join "," (pairs.map fun p => Expression.setText p.1 "in" [p.2])) labels = true ↔
      ∀ p ∈ pairs, (labels.get p.1).asString? = some p.2 := by
  have hterms : terms (join "," (pairs.map fun p => Expression.setText p.1 "in" [p.2])) =
      pairs.map fun p => Expression.setText p.1 "in" [p.2] := by
    apply terms_join <;> intro t ht <;> obtain ⟨p, hp, rfl⟩ := List.mem_map.1 ht
    · exact uncut_setText (h p hp).1 word_in (by simpa using (h p hp).2)
    · exact setText_ne_empty _ _ _
    · exact trim_setText (h p hp).1 _ _
  rw [holds, hterms, List.all_map, List.all_eq_true]
  refine forall₂_congr fun p hp => ?_
  have hone : termHolds (Expression.setText p.1 "in" [p.2]) labels = true ↔ _ :=
    termHolds_in (h p hp).1 (List.cons_ne_nil p.2 []) (by simpa using (h p hp).2)
  simpa using hone

/-- The spellings of a term: a set test, a comparison with a sign, or the key alone. -/
theorem Expression.label_cases (e : Expression) :
    (∃ word, (word = "in" ∨ word = "notin") ∧ e.label = setText e.key word e.values) ∨
      (∃ sign v, (sign = "=" ∨ sign = "!=") ∧ v ∈ e.values ∧ e.label = e.key ++ sign ++ v) ∨
      e.label = e.key := by
  unfold label
  split
  · exact Or.inl ⟨"in", Or.inl rfl, rfl⟩
  · exact Or.inl ⟨"notin", Or.inr rfl, rfl⟩
  · next v _ hvs => exact Or.inr (Or.inl ⟨"=", v, Or.inl rfl, by simp [hvs], rfl⟩)
  · exact Or.inl ⟨"in", Or.inl rfl, rfl⟩
  · next v _ hvs => exact Or.inr (Or.inl ⟨"!=", v, Or.inr rfl, by simp [hvs], rfl⟩)
  · exact Or.inl ⟨"notin", Or.inr rfl, rfl⟩
  · exact Or.inr (Or.inr rfl)

section

variable {e : Expression}

theorem label_uncut (hw : e.Worded) : Uncut e.label.toList := by
  obtain ⟨hk, hv⟩ := hw
  rcases e.label_cases with ⟨word, hword, he⟩ | ⟨sign, v, hsign, hmem, he⟩ | he
  · rw [he]
    rcases hword with rfl | rfl
    · exact uncut_setText hk word_in fun v hm => (hv v hm).plainText
    · exact uncut_setText hk word_notin fun v hm => (hv v hm).plainText
  · have hs : Uncut sign.toList := uncut_of_forall (by rcases hsign with rfl | rfl <;> simp)
    rw [he, String.toList_append, String.toList_append]
    exact (hk.uncut.append hs).append (hv v hmem).uncut
  · rw [he]
    exact hk.uncut

theorem label_trim (hw : e.Worded) : trimChars e.label.toList = e.label.toList := by
  obtain ⟨hk, hv⟩ := hw
  rcases e.label_cases with ⟨word, -, he⟩ | ⟨sign, v, -, hmem, he⟩ | he
  · rw [he]
    exact trim_setText hk word e.values
  · rw [he, String.toList_append, String.toList_append, List.append_assoc]
    exact trimChars_append hk.head_not_blank (hv v hmem).last_not_blank hk.toList_ne_nil
      (hv v hmem).toList_ne_nil
  · rw [he]
    exact hk.trim

theorem label_ne_empty (hk : Word e.key) : e.label ≠ "" := by
  intro h
  have hlist := congrArg String.toList h
  rcases e.label_cases with ⟨word, -, he⟩ | ⟨sign, v, -, -, he⟩ | he
  · exact setText_ne_empty _ _ _ (he ▸ h)
  · rw [he] at hlist
    simp only [String.toList_append, String.toList_empty, List.append_eq_nil_iff] at hlist
    exact hk.toList_ne_nil hlist.1.1
  · exact hk.1 (he ▸ h)

end

/-- **Labels.** A rendered selector selects an object exactly if every expression holds of the
object's labels. -/
theorem holds_render_iff (es : List Expression) (hes : ∀ e ∈ es, e.Worded) (object : Json) :
    ∃ text, render .label es = .ok text ∧
      (holds text ((object.get "metadata").get "labels") = true ↔
        ∀ e ∈ es, e.Holds (labelOf object)) := by
  refine ⟨_, rfl, ?_⟩
  have hterms : terms (join "," (es.map Expression.label)) = es.map Expression.label := by
    apply terms_join <;> intro t ht <;> obtain ⟨e, he, rfl⟩ := List.mem_map.1 ht
    · exact label_uncut (hes e he)
    · exact label_ne_empty (hes e he).1
    · exact label_trim (hes e he)
  rw [holds, hterms, List.all_map, List.all_eq_true]
  exact forall₂_congr fun e he => termHolds_label (hes e he)

/-- Expressions on keys that look like the words of set tests. -/
def reservedWords : List Expression :=
  [⟨"in", .isIn, ["notin", "a.b/c"], by decide, by decide⟩,
    ⟨"notin", .notIn, ["in"], by decide, by decide⟩,
    ⟨"app", .equals, ["web"], by decide, by decide⟩,
    ⟨"tier", .notEquals, ["web"], by decide, by decide⟩,
    ⟨"x_y-z", .present, [], by decide, by decide⟩]

/-- The labels of an object, one of them no text. -/
def labelled (tier : Json) : Json :=
  .obj [("metadata", .obj [("labels", .obj
    [("app", .str "web"), ("in", .str "a.b/c"), ("tier", tier), ("x_y-z", .str "")])])]

theorem holds_render_reservedWords :
    (∀ e ∈ reservedWords, e.Worded) ∧ (∃ text, render .label reservedWords = .ok text ∧
      (holds text (((labelled (.bool true)).get "metadata").get "labels") = true ↔
        ∀ e ∈ reservedWords, e.Holds (labelOf (labelled (.bool true))))) ∧
      (∀ e ∈ reservedWords, e.Holds (labelOf (labelled (.bool true)))) ∧
      ¬ ∀ e ∈ reservedWords, e.Holds (labelOf (labelled (.str "web"))) :=
  ⟨by decide, holds_render_iff reservedWords (by decide) (labelled (.bool true)), by decide,
    by decide⟩

end ClusterScript.Selector
