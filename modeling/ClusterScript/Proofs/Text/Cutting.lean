import ClusterScript.Text.Blank
import ClusterScript.Text.Split
import Mathlib.Data.List.TakeWhile

/-!
# Cutting texts that were put together

`splitOnce` and `splitOn` undo concatenation where the separator cannot be
mistaken for a part of what was joined. The condition used throughout is the
simplest that serves: the first character of the separator does not occur in
the text before it.

* `splitOnceChars_append`: a text cut at the separator that was put there.
* `join_splitOn`, `splitOn_join`: joining and splitting undo each other.
* `trimChars_self`: a text without blanks at its ends is its own trim, and
  `head_of_trimChars_eq` and `getLast_of_trimChars_eq` say the converse.
* `trim_ne_empty`: only a blank text is trimmed to nothing.
-/
namespace ClusterScript.Text

variable {s sep c : Char} {cs before after rest : List Char}

/-! ## The first occurrence -/

/-- Nothing is cut before a character that cannot start the separator. -/
theorem splitOnceChars_skip {word : List Char} (h : s ∉ before) :
    splitOnceChars (s :: word) (before ++ rest) =
      (splitOnceChars (s :: word) rest).map fun p => (before ++ p.1, p.2) := by
  induction before with
  | nil => simp
  | cons c before ih =>
    have hc : s ≠ c := fun e => h (by simp [e])
    have hb : s ∉ before := fun hm => h (by simp [hm])
    rw [List.cons_append, splitOnceChars, if_neg (by simp [List.isPrefixOf, hc]), ih hb]
    simp [Option.map_map, Function.comp_def]

theorem splitOnceChars_here {word : List Char} (h : word ≠ []) :
    splitOnceChars word (word ++ after) = some ([], after) := by
  cases word with
  | nil => exact absurd rfl h
  | cons c word =>
    rw [List.cons_append, splitOnceChars, if_pos]
    · simp
    · rw [List.isPrefixOf_iff_prefix]
      exact ⟨after, rfl⟩

theorem splitOnceChars_append {word : List Char} (h : s ∉ before) :
    splitOnceChars (s :: word) (before ++ (s :: word ++ after)) = some (before, after) := by
  rw [splitOnceChars_skip h, splitOnceChars_here (by simp)]
  simp

theorem splitOnceChars_eq_none {word : List Char} (h : s ∉ cs) :
    splitOnceChars (s :: word) cs = none := by
  have : splitOnceChars (s :: word) (cs ++ []) = _ := splitOnceChars_skip h
  simpa [splitOnceChars] using this

/-- A position where the separator does not stand is passed. -/
theorem splitOnceChars_pass {word : List Char} (h : word.isPrefixOf (c :: rest) = false) :
    splitOnceChars word (c :: rest) =
      (splitOnceChars word rest).map fun p => (c :: p.1, p.2) := by
  rw [splitOnceChars, if_neg (by simp [h])]

theorem splitOnceChars_eq_none_of_not_infix {word : List Char} (hword : word ≠ [])
    (h : ¬ word <:+: cs) : splitOnceChars word cs = none := by
  induction cs with
  | nil => simp [splitOnceChars, hword]
  | cons c cs ih =>
    have hhere : word.isPrefixOf (c :: cs) = false := by
      rw [Bool.eq_false_iff, Ne, List.isPrefixOf_iff_prefix]
      exact fun hp => h hp.isInfix
    rw [splitOnceChars_pass hhere, ih fun hi => h (hi.trans (List.suffix_cons c cs).isInfix)]
    rfl

theorem splitOnce_eq_map (sep t : String) :
    splitOnce sep t = (splitOnceChars sep.toList t.toList).map fun p =>
      (String.ofList p.1, String.ofList p.2) := rfl

/-! ## All occurrences -/

theorem splitOnChars_of_notMem (h : sep ∉ cs) : splitOnChars sep cs = [cs] := by
  induction cs with
  | nil => rfl
  | cons c cs ih =>
    have hc : c ≠ sep := fun e => h (by simp [e])
    rw [splitOnChars, if_neg hc, ih fun hm => h (by simp [hm])]

theorem splitOnChars_append (h : sep ∉ before) :
    splitOnChars sep (before ++ sep :: after) = before :: splitOnChars sep after := by
  induction before with
  | nil => simp [splitOnChars]
  | cons c before ih =>
    have hc : c ≠ sep := fun e => h (by simp [e])
    rw [List.cons_append, splitOnChars, if_neg hc, ih fun hm => h (by simp [hm])]

theorem splitOnChars_ne_nil (sep : Char) (cs : List Char) : splitOnChars sep cs ≠ [] := by
  cases cs with
  | nil => simp [splitOnChars]
  | cons c cs =>
    unfold splitOnChars
    split
    · simp
    · split <;> simp

/-- A character that is no separator goes into the first part. -/
theorem splitOnChars_cons_ne (h : c ≠ sep) (cs : List Char) :
    ∃ part parts, splitOnChars sep cs = part :: parts ∧
      splitOnChars sep (c :: cs) = (c :: part) :: parts := by
  obtain ⟨part, parts, hp⟩ := List.exists_cons_of_ne_nil (splitOnChars_ne_nil sep cs)
  refine ⟨part, parts, hp, ?_⟩
  rw [splitOnChars, if_neg h, hp]

/-- The last part is what follows the last separator. -/
theorem splitOnChars_last (sep : Char) (cs : List Char) : ∃ path last,
    (splitOnChars sep cs).getLast? = some last ∧ cs = path ++ last ∧
      (path = [] ∨ path.getLast? = some sep) ∧ sep ∉ last := by
  by_cases h : sep ∈ cs
  · obtain ⟨before, after, hcs, hbefore⟩ := List.eq_append_cons_of_mem h
    obtain ⟨path, last, hparts, hafter, hpath, hlast⟩ := splitOnChars_last sep after
    refine ⟨before ++ sep :: path, last, ?_, ?_, .inr ?_, hlast⟩
    · rw [hcs, splitOnChars_append hbefore, List.getLast?_cons, hparts]
      rfl
    · rw [hcs, List.append_assoc, List.cons_append, ← hafter]
    · rcases hpath with rfl | hpath
      · simp
      · simp [List.getLast?_append, List.getLast?_cons, hpath]
  · exact ⟨[], cs, by rw [splitOnChars_of_notMem h]; rfl, rfl, .inl rfl, h⟩
termination_by cs.length
decreasing_by
  rw [hcs, List.length_append, List.length_cons]
  omega

/-! ## Joined parts -/

theorem join_cons_cons (sep a b : String) (more : List String) :
    (join sep (a :: b :: more)).toList =
      a.toList ++ (sep.toList ++ (join sep (b :: more)).toList) := by
  simp [join]

theorem join_singleton (sep a : String) : join sep [a] = a := rfl

/-- What holds of the characters of the parts and of the separator holds of all characters. -/
theorem forall_join {p : Char → Prop} {sep : String} (hsep : ∀ c ∈ sep.toList, p c) :
    ∀ {parts : List String}, (∀ t ∈ parts, ∀ c ∈ t.toList, p c) →
      ∀ c ∈ (join sep parts).toList, p c
  | [], _, c, hc => by simp [join] at hc
  | [a], h, c, hc => h a (by simp) c hc
  | a :: b :: more, h, c, hc => by
    rw [join_cons_cons] at hc
    simp only [List.mem_append] at hc
    rcases hc with hc | hc | hc
    · exact h a (by simp) c hc
    · exact hsep c hc
    · exact forall_join hsep (fun t ht => h t (by simp [ht])) c hc

/-- What stands before the first part stays there. -/
theorem join_ofList_append (sep : String) (before part : List Char) (parts : List (List Char)) :
    (join sep (((before ++ part) :: parts).map String.ofList)).toList =
      before ++ (join sep ((part :: parts).map String.ofList)).toList := by
  cases parts with
  | nil => simp [join]
  | cons next more =>
    simp only [List.map_cons, join_cons_cons, String.toList_ofList, List.append_assoc]

/-- Joining undoes splitting. -/
theorem join_splitOnChars (sep : Char) (cs : List Char) :
    (join (String.singleton sep) ((splitOnChars sep cs).map String.ofList)).toList = cs := by
  induction cs with
  | nil => simp [splitOnChars, join]
  | cons c cs ih =>
    by_cases h : c = sep
    · subst h
      obtain ⟨part, parts, hp⟩ := List.exists_cons_of_ne_nil (splitOnChars_ne_nil c cs)
      rw [splitOnChars, if_pos rfl, hp, List.map_cons, List.map_cons, join_cons_cons,
        ← List.map_cons, ← hp, ih]
      simp
    · obtain ⟨part, parts, hp, hcons⟩ := splitOnChars_cons_ne h cs
      rw [hp] at ih
      rw [hcons]
      exact (join_ofList_append _ [c] part parts).trans (by rw [ih]; rfl)

theorem join_splitOn (sep : Char) (s : String) :
    join (String.singleton sep) (splitOn sep s) = s :=
  String.toList_inj.1 (join_splitOnChars sep s.toList)

/-- Parts without the separator come back from between it. -/
theorem splitOn_join : ∀ {parts : List String}, parts ≠ [] → (∀ t ∈ parts, sep ∉ t.toList) →
    splitOn sep (join (String.singleton sep) parts) = parts
  | [], hne, _ => absurd rfl hne
  | [t], _, h => by
    simp [splitOn, join_singleton, splitOnChars_of_notMem (h t (by simp)), String.ofList_toList]
  | t :: u :: more, _, h => by
    have ih := splitOn_join (List.cons_ne_nil u more) fun x hx => h x (by simp [hx])
    rw [splitOn] at ih ⊢
    rw [join_cons_cons, String.toList_singleton, List.singleton_append,
      splitOnChars_append (h t (by simp)), List.map_cons, ih, String.ofList_toList]

/-! ## Blanks at the ends -/

theorem trimChars_self (hf : ∀ c ∈ cs.head?, isBlank c = false)
    (hl : ∀ c ∈ cs.getLast?, isBlank c = false) : trimChars cs = cs := by
  have hfront : cs.dropWhile isBlank = cs := by
    cases cs with
    | nil => rfl
    | cons c cs => simp [List.dropWhile, hf c (by simp)]
  have hback : cs.reverse.dropWhile isBlank = cs.reverse := by
    cases hr : cs.reverse with
    | nil => rfl
    | cons c r =>
      have : c ∈ cs.getLast? := by simp [← List.head?_reverse, hr]
      simp [List.dropWhile, hl c this]
  rw [trimChars, hfront, trimEndChars, hback, List.reverse_reverse]

theorem trimEndChars_prefix (cs : List Char) : trimEndChars cs <+: cs := by
  rw [trimEndChars, ← List.reverse_suffix, List.reverse_reverse]
  exact List.dropWhile_suffix isBlank

/-- A text that is its own trim does not begin with a blank. -/
theorem head_of_trimChars_eq (h : trimChars cs = cs) : ∀ c ∈ cs.head?, isBlank c = false := by
  intro c hc
  obtain ⟨back, hback⟩ := trimEndChars_prefix (cs.dropWhile isBlank)
  have hhead : c ∈ (cs.dropWhile isBlank).head? := by
    rw [← hback, ← trimChars, h, List.head?_append, Option.mem_def.1 hc]
    rfl
  have hblank := List.head?_dropWhile_not isBlank cs
  rw [Option.mem_def.1 hhead] at hblank
  exact hblank

/-- A text that is its own trim does not end with a blank. -/
theorem getLast_of_trimChars_eq (h : trimChars cs = cs) : ∀ c ∈ cs.getLast?, isBlank c = false := by
  intro c hc
  have hhead : c ∈ ((cs.dropWhile isBlank).reverse.dropWhile isBlank).head? := by
    rwa [← List.getLast?_reverse, ← trimEndChars, ← trimChars, h]
  have hblank := List.head?_dropWhile_not isBlank (cs.dropWhile isBlank).reverse
  rw [Option.mem_def.1 hhead] at hblank
  exact hblank

theorem trimChars_of_trim {text : String} (h : trim text = text) :
    trimChars text.toList = text.toList := by
  rw [trim, ← String.toList_inj, String.toList_ofList] at h
  exact h

/-- A text between two others whose outer ends are no blanks. -/
theorem trimChars_append {a m b : List Char} (ha : ∀ c ∈ a.head?, isBlank c = false)
    (hb : ∀ c ∈ b.getLast?, isBlank c = false) (hna : a ≠ []) (hnb : b ≠ []) :
    trimChars (a ++ (m ++ b)) = a ++ (m ++ b) := by
  apply trimChars_self
  · intro c hc
    cases a with
    | nil => exact absurd rfl hna
    | cons d a => exact ha c hc
  · intro c hc
    obtain ⟨d, hd⟩ := Option.ne_none_iff_exists'.1 fun h => hnb (List.getLast?_eq_none_iff.1 h)
    rw [← List.append_assoc, List.getLast?_append, hd] at hc
    exact hb c (by simpa [hd] using hc)

theorem trimChars_blank_cons (h : isBlank c = true) : trimChars (c :: cs) = trimChars cs := by
  simp [trimChars, List.dropWhile, h]

/-- Something is left of a text that is not blank. -/
theorem trim_ne_empty {text : String} (h : blank text = false) : trim text ≠ "" := by
  intro hempty
  have hnil : trimChars text.toList = [] := by
    simpa [trim, ← String.toList_inj] using hempty
  have hrest : ∀ c ∈ text.toList.dropWhile isBlank, isBlank c = true := by
    simpa [trimChars, trimEndChars, List.dropWhile_eq_nil_iff] using hnil
  have hall : ∀ c ∈ text.toList, isBlank c = true := by
    intro c hc
    rw [← List.takeWhile_append_dropWhile (p := isBlank) (l := text.toList)] at hc
    rcases List.mem_append.1 hc with hc | hc
    · exact List.mem_takeWhile_imp hc
    · exact hrest c hc
  rw [blank, List.all_eq_true.2 hall] at h
  cases h

end ClusterScript.Text
