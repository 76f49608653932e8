import ClusterScript.Proofs.Query.GlobForms

/-!
# The names that filters let pass

A filter lets a name pass that it cuts into the fixed part and names around it,
with a hyphen in between or not (`accepts_startsWith`, `accepts_endsWith`,
`accepts_contains`). For names of the cluster this is nearly the plain reading
of the glob: a filter misses the names in which two hyphens stand next to the
fixed part, and no others.

* `FilterShape.PlainlyReads`: the plain reading of a glob.
* `FilterShape.Reads`: the same, without two hyphens next to the fixed part.
* `Glob.accepts_iff_reads`: a filter accepts what its glob reads.
* `NameFilter.accepts_iff_plainly`: the readings agree on names without two hyphens in a row.
-/
namespace ClusterScript

namespace Name

section

variable {c : Char} {cs front rest : List Char}

theorem isNameChar_iff : isNameChar c = true ↔ isEdge c = true ∨ c = '-' := by
  unfold isNameChar
  rw [Bool.or_eq_true, beq_iff_eq]
  rfl

theorem formed_iff : Formed cs ↔ (∀ c ∈ cs, isNameChar c = true) ∧
    cs.head?.any isEdge = true ∧ cs.getLast?.any isEdge = true := by
  rw [← valid_iff_formed, valid, Bool.and_eq_true, Bool.and_eq_true, List.all_eq_true, and_assoc]

theorem formed_reverse : Formed cs.reverse ↔ Formed cs := by
  rw [formed_iff, formed_iff, List.head?_reverse, List.getLast?_reverse]
  simp only [List.mem_reverse]
  exact and_congr_right fun _ => and_comm

/-- What stands behind the front of a name is a name, perhaps with a hyphen before it, unless it
is empty or begins with two hyphens. -/
theorem Formed.behind (h : Formed (front ++ rest)) :
    (∃ b name, Formed name ∧ rest = hyphen b ++ name) ↔ rest ≠ [] ∧ ¬ ['-', '-'] <+: rest := by
  constructor
  · rintro ⟨b, name, hname, rfl⟩
    obtain ⟨first, tail, rfl, hfirst⟩ := hname.head
    have hne := (isEdge_ne_hyphen hfirst).symm
    cases b <;> simp [hyphen, hne]
  · rintro ⟨hne, htwo⟩
    have hchars : ∀ c ∈ rest, isNameChar c = true := fun c hc =>
      h.chars c (List.mem_append_right _ hc)
    have hformed : ∀ {init first tail}, rest = init ++ first :: tail → isEdge first = true →
        Formed (first :: tail) := by
      rintro init first tail rfl hfirst
      have hlast := (formed_iff.1 h).2.2
      rw [← List.append_assoc, List.getLast?_append, List.getLast?_cons, Option.some_or,
        ← List.getLast?_cons] at hlast
      exact formed_iff.2 ⟨fun c hc => hchars c (List.mem_append_right _ hc), hfirst, hlast⟩
    cases rest with
    | nil => exact absurd rfl hne
    | cons first tail =>
      rcases isNameChar_iff.1 (hchars first (List.mem_cons_self ..)) with hfirst | rfl
      · exact ⟨false, _, hformed (List.nil_append _).symm hfirst, rfl⟩
      · cases tail with
        | nil =>
          -- a name does not end with a hyphen
          obtain ⟨init, last, heq, hlast⟩ := h.last
          exact absurd (List.append_inj_right' heq rfl) (by simp [(isEdge_ne_hyphen hlast).symm])
        | cons second tail =>
          have hsecond := hchars second (List.mem_cons_of_mem _ (List.mem_cons_self ..))
          rcases isNameChar_iff.1 hsecond with hsecond | rfl
          · exact ⟨true, _, hformed (List.singleton_append).symm hsecond, rfl⟩
          · exact absurd ⟨tail, rfl⟩ htwo

/-- What stands before the back of a name is a name, perhaps with a hyphen behind it, unless it is
empty or ends with two hyphens. -/
theorem Formed.before (h : Formed (front ++ rest)) :
    (∃ name b, Formed name ∧ front = name ++ hyphen b) ↔ front ≠ [] ∧ ¬ ['-', '-'] <:+ front := by
  have hmirrored : Formed (rest.reverse ++ front.reverse) := by
    rw [← List.reverse_append]
    exact formed_reverse.2 h
  have htwo : ['-', '-'] <+: front.reverse ↔ ['-', '-'] <:+ front := by
    rw [← List.reverse_prefix]
    rfl
  rw [← htwo, ← List.reverse_ne_nil_iff, ← hmirrored.behind]
  constructor
  · rintro ⟨name, b, hname, rfl⟩
    exact ⟨b, name.reverse, formed_reverse.2 hname, by rw [List.reverse_append, hyphen_reverse]⟩
  · rintro ⟨b, name, hname, heq⟩
    refine ⟨name.reverse, b, formed_reverse.2 hname, ?_⟩
    rw [← List.reverse_inj, heq, List.reverse_append, List.reverse_reverse, hyphen_reverse]

end

end Name

namespace NameFilter

open Name (Formed hyphen)

/-! ## Cuts -/

section

variable {cs fixed before rest : List Char} {p n : String}

theorem looseBefore_iff : looseBefore cs = true ↔
    ∃ front b, (front = [] ∨ Formed front) ∧ cs = front ++ hyphen b := by
  unfold looseBefore
  rw [Bool.or_eq_true, Bool.or_eq_true, List.isEmpty_iff, beq_iff_eq, Name.validBeforeHyphen_iff]
  constructor
  · rintro ((rfl | rfl) | ⟨name, b, hname, rfl⟩)
    · exact ⟨[], false, .inl rfl, rfl⟩
    · exact ⟨[], true, .inl rfl, rfl⟩
    · exact ⟨name, b, .inr hname, rfl⟩
  · rintro ⟨front, b, rfl | hname, rfl⟩
    · cases b with
      | false => exact .inl (.inl rfl)
      | true => exact .inl (.inr rfl)
    · exact .inr ⟨front, b, hname, rfl⟩

theorem looseAfter_iff : looseAfter cs = true ↔
    ∃ b back, (back = [] ∨ Formed back) ∧ cs = hyphen b ++ back := by
  unfold looseAfter
  rw [Bool.or_eq_true, Bool.or_eq_true, List.isEmpty_iff, beq_iff_eq, Name.validAfterHyphen_iff]
  constructor
  · rintro ((rfl | rfl) | ⟨b, name, hname, rfl⟩)
    · exact ⟨false, [], .inl rfl, rfl⟩
    · exact ⟨true, [], .inl rfl, rfl⟩
    · exact ⟨b, name, .inr hname, rfl⟩
  · rintro ⟨b, back, rfl | hname, rfl⟩
    · cases b with
      | false => exact .inl (.inl rfl)
      | true => exact .inl (.inr rfl)
    · exact .inr ⟨b, back, hname, rfl⟩

/-- The search goes over all places at which the fixed part stands. -/
theorem occurs_iff : occurs fixed before rest = true ↔ ∃ front back,
    rest = front ++ (fixed ++ back) ∧ looseBefore (before.reverse ++ front) = true ∧
      looseAfter back = true := by
  induction rest generalizing before with
  | nil =>
    unfold occurs
    rw [Bool.and_eq_true, List.isEmpty_iff]
    constructor
    · rintro ⟨rfl, h⟩
      exact ⟨[], [], rfl, by simpa using h, rfl⟩
    · rintro ⟨front, back, heq, h, -⟩
      obtain ⟨rfl, hrest⟩ := List.append_eq_nil_iff.1 heq.symm
      obtain ⟨rfl, -⟩ := List.append_eq_nil_iff.1 hrest
      exact ⟨rfl, by simpa using h⟩
  | cons c rest ih =>
    unfold occurs
    rw [Bool.or_eq_true, Bool.and_eq_true, Bool.and_eq_true, List.isPrefixOf_iff_prefix, ih]
    constructor
    · rintro (⟨⟨⟨back, hback⟩, hbefore⟩, hafter⟩ | ⟨front, back, rfl, hbefore, hafter⟩)
      · rw [← hback, List.drop_left] at hafter
        exact ⟨[], back, hback.symm, by simpa using hbefore, hafter⟩
      · exact ⟨c :: front, back, rfl, by simpa using hbefore, hafter⟩
    · rintro ⟨front, back, heq, hbefore, hafter⟩
      cases front with
      | nil =>
        rw [List.nil_append] at heq
        refine .inl ⟨⟨⟨back, heq.symm⟩, by simpa using hbefore⟩, ?_⟩
        rwa [heq, List.drop_left]
      | cons first front =>
        obtain ⟨rfl, rfl⟩ := List.cons.inj heq
        exact .inr ⟨front, back, rfl, by simpa using hbefore, hafter⟩

theorem accepts_startsWith : accepts ⟨.startsWith, p⟩ n = true ↔
    ∃ b name, Formed name ∧ n.toList = p.toList ++ (hyphen b ++ name) := by
  unfold accepts
  dsimp only
  rw [Bool.and_eq_true, List.isPrefixOf_iff_prefix, Name.validAfterHyphen_iff]
  constructor
  · rintro ⟨⟨rest, hrest⟩, b, name, hname, hdrop⟩
    rw [← hrest, List.drop_left] at hdrop
    exact ⟨b, name, hname, by rw [← hrest, hdrop]⟩
  · rintro ⟨b, name, hname, heq⟩
    rw [heq, List.drop_left]
    exact ⟨List.prefix_append _ _, b, name, hname, rfl⟩

theorem accepts_endsWith : accepts ⟨.endsWith, p⟩ n = true ↔
    ∃ name b, Formed name ∧ n.toList = name ++ hyphen b ++ p.toList := by
  have htake : ∀ front : List Char,
      (front ++ p.toList).take ((front ++ p.toList).length - p.toList.length) = front := by
    intro front
    rw [List.length_append, Nat.add_sub_cancel, List.take_left]
  unfold accepts
  dsimp only
  rw [Bool.and_eq_true, List.isSuffixOf_iff_suffix, Name.validBeforeHyphen_iff]
  constructor
  · rintro ⟨⟨front, hfront⟩, name, b, hname, hcut⟩
    rw [← hfront, htake] at hcut
    exact ⟨name, b, hname, by rw [← hfront, hcut]⟩
  · rintro ⟨name, b, hname, heq⟩
    rw [heq, htake]
    exact ⟨List.suffix_append _ _, name, b, hname, rfl⟩

theorem accepts_contains : accepts ⟨.contains, p⟩ n = true ↔
    ∃ front b b' back, (front = [] ∨ Formed front) ∧ (back = [] ∨ Formed back) ∧
      n.toList = front ++ hyphen b ++ (p.toList ++ (hyphen b' ++ back)) := by
  unfold accepts
  dsimp only
  rw [occurs_iff]
  simp only [List.reverse_nil, List.nil_append, looseBefore_iff, looseAfter_iff]
  constructor
  · rintro ⟨_, _, heq, ⟨front, b, hfront, rfl⟩, b', back, hback, rfl⟩
    exact ⟨front, b, b', back, hfront, hback, heq⟩
  · rintro ⟨front, b, b', back, hfront, hback, heq⟩
    exact ⟨_, _, heq, ⟨front, b, hfront, rfl⟩, b', back, hback, rfl⟩

end

end NameFilter

/-! ## Readings -/

namespace FilterShape

/-- How a glob with this fixed part is written. -/
def written (p : String) : FilterShape → String
  | .startsWith => p ++ "*"
  | .endsWith => "*" ++ p
  | .contains => "*" ++ p ++ "*"

/-- The plain reading of a glob: the name begins or ends with the fixed part and goes on, or it
has the fixed part in it. -/
def PlainlyReads (p n : List Char) : FilterShape → Prop
  | .startsWith => p <+: n ∧ p.length < n.length
  | .endsWith => p <:+ n ∧ p.length < n.length
  | .contains => p <:+: n

/-- The same, where two hyphens do not stand next to the fixed part. -/
def Reads (p n : List Char) : FilterShape → Prop
  | .startsWith => ∃ back, n = p ++ back ∧ back ≠ [] ∧ ¬ ['-', '-'] <+: back
  | .endsWith => ∃ front, n = front ++ p ∧ front ≠ [] ∧ ¬ ['-', '-'] <:+ front
  | .contains => ∃ front back, n = front ++ (p ++ back) ∧
      ¬ ['-', '-'] <:+ front ∧ ¬ ['-', '-'] <+: back

end FilterShape

namespace NameFilter

open Name (Formed hyphen)

section

variable {n : String} {front rest : List Char}

/-- Before a part of a name, anything may stand that does not end with two hyphens. -/
theorem looseBefore_of_formed (h : Formed (front ++ rest)) :
    looseBefore front = true ↔ ¬ ['-', '-'] <:+ front := by
  rw [looseBefore_iff]
  constructor
  · rintro ⟨name, b, rfl | hname, rfl⟩ htwo
    · have hlength := htwo.length_le
      cases b <;> simp [hyphen] at hlength
    · exact (h.before.1 ⟨name, b, hname, rfl⟩).2 htwo
  · intro htwo
    by_cases hne : front = []
    · exact ⟨[], false, .inl rfl, hne⟩
    · obtain ⟨name, b, hname, heq⟩ := h.before.2 ⟨hne, htwo⟩
      exact ⟨name, b, .inr hname, heq⟩

/-- Behind a part of a name, anything may stand that does not begin with two hyphens. -/
theorem looseAfter_of_formed (h : Formed (front ++ rest)) :
    looseAfter rest = true ↔ ¬ ['-', '-'] <+: rest := by
  rw [looseAfter_iff]
  constructor
  · rintro ⟨b, name, rfl | hname, rfl⟩ htwo
    · have hlength := htwo.length_le
      cases b <;> simp [hyphen] at hlength
    · exact (h.behind.1 ⟨b, name, hname, rfl⟩).2 htwo
  · intro htwo
    by_cases hne : rest = []
    · exact ⟨false, [], .inl rfl, hne⟩
    · obtain ⟨b, name, hname, heq⟩ := h.behind.2 ⟨hne, htwo⟩
      exact ⟨b, name, .inr hname, heq⟩

/-- Of the names of the cluster, a filter lets those pass that its glob is for. -/
theorem accepts_iff (f : NameFilter) (hname : Formed n.toList) :
    f.accepts n = true ↔ f.shape.Reads f.fixed.toList n.toList := by
  obtain ⟨shape, p⟩ := f
  cases shape with
  | startsWith =>
    rw [accepts_startsWith]
    constructor
    · rintro ⟨b, name, hpart, heq⟩
      exact ⟨_, heq, (heq ▸ hname).behind.1 ⟨b, name, hpart, rfl⟩⟩
    · rintro ⟨back, heq, hback⟩
      obtain ⟨b, name, hpart, rfl⟩ := (heq ▸ hname).behind.2 hback
      exact ⟨b, name, hpart, heq⟩
  | endsWith =>
    rw [accepts_endsWith]
    constructor
    · rintro ⟨name, b, hpart, heq⟩
      exact ⟨_, heq, (heq ▸ hname).before.1 ⟨name, b, hpart, rfl⟩⟩
    · rintro ⟨front, heq, hfront⟩
      obtain ⟨name, b, hpart, rfl⟩ := (heq ▸ hname).before.2 hfront
      exact ⟨name, b, hpart, heq⟩
  | contains =>
    unfold accepts FilterShape.Reads
    dsimp only
    rw [occurs_iff]
    simp only [List.reverse_nil, List.nil_append]
    refine exists_congr fun front => exists_congr fun back => and_congr_right fun heq => ?_
    have hfront : Formed (front ++ (p.toList ++ back)) := heq ▸ hname
    have hback : Formed ((front ++ p.toList) ++ back) := List.append_assoc .. ▸ hfront
    exact and_congr (looseBefore_of_formed hfront) (looseAfter_of_formed hback)

/-- What a filter lets pass fits the plain reading of its glob. -/
theorem plainly_of_reads {shape : FilterShape} {p n : List Char} (h : shape.Reads p n) :
    shape.PlainlyReads p n := by
  cases shape with
  | startsWith =>
    obtain ⟨back, rfl, hne, -⟩ := h
    have hpos := List.length_pos_iff.2 hne
    exact ⟨List.prefix_append _ _, by rw [List.length_append]; omega⟩
  | endsWith =>
    obtain ⟨front, rfl, hne, -⟩ := h
    have hpos := List.length_pos_iff.2 hne
    exact ⟨List.suffix_append _ _, by rw [List.length_append]; omega⟩
  | contains =>
    obtain ⟨front, back, rfl, -, -⟩ := h
    exact ⟨front, back, List.append_assoc ..⟩

/-- A name that fits the plain reading only has two hyphens in a row. -/
theorem reads_of_plainly {shape : FilterShape} {p n : List Char} (h : shape.PlainlyReads p n)
    (htwo : ¬ ['-', '-'] <:+: n) : shape.Reads p n := by
  cases shape with
  | startsWith =>
    obtain ⟨⟨back, rfl⟩, hlength⟩ := h
    refine ⟨back, rfl, ?_, fun hback => htwo ?_⟩
    · rintro rfl
      simp at hlength
    · exact hback.isInfix.trans (List.suffix_append _ _).isInfix
  | endsWith =>
    obtain ⟨⟨front, rfl⟩, hlength⟩ := h
    refine ⟨front, rfl, ?_, fun hfront => htwo ?_⟩
    · rintro rfl
      simp at hlength
    · exact hfront.isInfix.trans (List.prefix_append _ _).isInfix
  | contains =>
    obtain ⟨front, back, rfl⟩ := h
    refine ⟨front, back, List.append_assoc .., fun hfront => htwo ?_, fun hback => htwo ?_⟩
    · rw [List.append_assoc]
      exact hfront.isInfix.trans (List.prefix_append _ _).isInfix
    · exact hback.isInfix.trans (List.suffix_append _ _).isInfix

/-- Without two hyphens in a row, names are let pass as the glob plainly reads. -/
theorem accepts_iff_plainly (f : NameFilter) (hname : Formed n.toList)
    (htwo : ¬ ['-', '-'] <:+: n.toList) :
    f.accepts n = true ↔ f.shape.PlainlyReads f.fixed.toList n.toList := by
  rw [accepts_iff f hname]
  exact ⟨plainly_of_reads, fun h => reads_of_plainly h htwo⟩

end

end NameFilter

namespace Glob

open Name (Formed)

/-- A text with a filter is the fixed part with its stars, perhaps behind a slash. -/
theorem eq_written {s : String} {scope : Scope} {f : NameFilter}
    (h : parse? s = some ⟨scope, some f⟩) :
    ∃ before, (before = "" ∨ ∃ ns, before = ns ++ "/") ∧ s = before ++ f.shape.written f.fixed := by
  have hpart : ∀ {part : Part}, part.filter = some f →
      String.ofList part.chars = f.shape.written f.fixed := by
    intro part hfilter
    cases part with
    | star => cases hfilter
    | _ =>
      cases hfilter
      rw [← String.toList_inj]
      simp [Part.chars, FilterShape.written]
  obtain ⟨form, rfl, hform⟩ := exists_form h
  have hfilter : form.glob.filter = some f := by rw [hform]
  cases form with
  | here part => exact ⟨"", .inl rfl, by rw [← hpart hfilter, String.empty_append]; rfl⟩
  | within place part =>
    cases part with
    | none => cases hfilter
    | some part =>
      refine ⟨String.ofList place.chars ++ "/", .inr ⟨_, rfl⟩, ?_⟩
      rw [← hpart hfilter, ← String.toList_inj]
      simp [Form.text, Form.chars]

/-- A glob that filters names is for those which begin with its fixed part, end with it or have it
in them and go on without two hyphens next to it; of the names of the cluster, its filter accepts
these and no others. -/
theorem accepts_iff_reads {s n : String} {scope : Scope} {f : NameFilter}
    (hglob : parse? s = some ⟨scope, some f⟩) (hname : Formed n.toList) :
    (∃ before, (before = "" ∨ ∃ ns, before = ns ++ "/") ∧ s = before ++ f.shape.written f.fixed) ∧
      (f.accepts n = true ↔ f.shape.Reads f.fixed.toList n.toList) := by
  have hwritten := eq_written hglob
  have haccepts := f.accepts_iff hname
  exact ⟨hwritten, haccepts⟩

theorem accepts_iff_reads_web :
    parse? "shop/web*" = some ⟨.named "shop", some ⟨.startsWith, "web"⟩⟩ ∧
      Formed "web-1".toList ∧ FilterShape.startsWith.Reads "web".toList "web-1".toList := by
  have hglob : parse? "shop/web*" = some ⟨.named "shop", some ⟨.startsWith, "web"⟩⟩ := by decide
  have hname : Formed "web-1".toList := Name.valid_iff_formed.1 (by decide)
  have haccepts : NameFilter.accepts ⟨.startsWith, "web"⟩ "web-1" = true := by decide
  exact ⟨hglob, hname, (accepts_iff_reads hglob hname).2.1 haccepts⟩

/-- The filters of `web*`, `*web` and `*web*` miss names that the plain readings of these globs
have. -/
theorem plain_reading_missed :
    (parse? "web*" = some ⟨.current, some ⟨.startsWith, "web"⟩⟩ ∧ Formed "web--1".toList ∧
      FilterShape.startsWith.PlainlyReads "web".toList "web--1".toList ∧
      NameFilter.accepts ⟨.startsWith, "web"⟩ "web--1" = false) ∧
    (parse? "*web" = some ⟨.current, some ⟨.endsWith, "web"⟩⟩ ∧ Formed "a--web".toList ∧
      FilterShape.endsWith.PlainlyReads "web".toList "a--web".toList ∧
      NameFilter.accepts ⟨.endsWith, "web"⟩ "a--web" = false) ∧
    (parse? "*web*" = some ⟨.current, some ⟨.contains, "web"⟩⟩ ∧ Formed "a--web".toList ∧
      FilterShape.contains.PlainlyReads "web".toList "a--web".toList ∧
      NameFilter.accepts ⟨.contains, "web"⟩ "a--web" = false) := by
  have hfirst : Formed "web--1".toList := Name.valid_iff_formed.1 (by decide)
  have hsecond : Formed "a--web".toList := Name.valid_iff_formed.1 (by decide)
  refine ⟨⟨by decide, hfirst, ⟨?_, by decide⟩, by decide⟩,
    ⟨by decide, hsecond, ⟨?_, by decide⟩, by decide⟩, by decide, hsecond, ?_, by decide⟩
  · exact ⟨"--1".toList, by decide⟩
  · exact ⟨"a--".toList, by decide⟩
  · exact ⟨"a--".toList, [], by decide⟩

end Glob

end ClusterScript
