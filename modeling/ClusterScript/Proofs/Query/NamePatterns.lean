import ClusterScript.Cluster.Decoding
import ClusterScript.Proofs.Pattern.Meaning
import ClusterScript.Proofs.Pattern.Reading
import ClusterScript.Proofs.Query.Arguments
import ClusterScript.Proofs.Query.NameFilters

/-!
# The patterns of filters

A filter has a regular expression, which is written with the fixed part in it.
It can always be read, since a fixed part has letters, digits and hyphens only
and hyphens are escaped; what it is read as matches the names that the filter
accepts.

* `Pattern.occursIn_whole`: a pattern held at both ends matches its words.
* `NameFilter.items`: what the regular expression of a filter is read as.
* `NameFilter.pattern_matches`: the regular expression does what the filter does.
* `Glob.read_by_forms`: which texts a query takes as globs, and what for.
* `Glob.letters_refused`: a filter may be too long for its expression to compile.
-/
namespace ClusterScript

namespace Pattern

/-! ## The words of items -/

section

variable {c : Char} {p : Pattern} {ps qs : List Pattern} {w : List Char} {i j : Nat}
  {text : List Char}

theorem mem_sequence_nil : w ∈ (sequence []).language ↔ w = [] := Language.mem_one w

theorem mem_sequence_cons : w ∈ (sequence (p :: ps)).language ↔
    ∃ u ∈ p.language, ∃ v ∈ (sequence ps).language, u ++ v = w :=
  Language.mem_mul

theorem mem_optional : w ∈ (optional p).language ↔ w = [] ∨ w ∈ p.language := by
  have h : (optional p).language = 1 * (1 + p.language * 1) := rfl
  rw [h, one_mul, mul_one, Language.mem_add, Language.mem_one]

theorem mem_char {k : CharClass} : w ∈ (Pattern.char k).language ↔ ∃ c, w = [c] ∧ k.has c = true :=
  Iff.rfl

/-- Any number of characters of a class. -/
theorem mem_many_char {k : CharClass} :
    w ∈ (many (.char k)).language ↔ ∀ c ∈ w, k.has c = true := by
  have h : (many (.char k)).language = 1 * KStar.kstar (Pattern.char k).language := rfl
  rw [h, one_mul, Language.mem_kstar]
  constructor
  · rintro ⟨words, rfl, hwords⟩ c hc
    obtain ⟨word, hword, hc⟩ := List.mem_flatten.1 hc
    obtain ⟨d, rfl, hd⟩ := mem_char.1 (hwords word hword)
    rwa [List.mem_singleton.1 hc]
  · intro hw
    have hflat : w = (w.map fun c => [c]).flatten := by
      rw [← List.flatMap_def, List.flatMap_singleton']
    refine ⟨w.map fun c => [c], hflat, ?_⟩
    intro word hword
    obtain ⟨c, hc, rfl⟩ := List.mem_map.1 hword
    exact mem_char.2 ⟨c, rfl, hw c hc⟩

theorem has_plain {items : List ClassItem} :
    CharClass.has ⟨false, false, items⟩ c = items.any fun item => item.has c := by
  simp [CharClass.has]

theorem range_has_iff {d : Char} : (ClassItem.range c c).has d = true ↔ d = c := by
  simp only [ClassItem.has, Bool.and_eq_true, decide_eq_true_eq]
  constructor
  · exact fun h => Char.le_antisymm h.2 h.1
  · rintro rfl
    exact ⟨Char.le_refl _, Char.le_refl _⟩

theorem mem_literal : w ∈ (literal false c).language ↔ w = [c] := by
  rw [literal, mem_char]
  simp only [has_plain, List.any_cons, List.any_nil, Bool.or_false, range_has_iff,
    exists_eq_right]

theorem mem_literals {cs : List Char} :
    w ∈ (sequence (cs.map (literal false))).language ↔ w = cs := by
  induction cs generalizing w with
  | nil => exact mem_sequence_nil
  | cons c cs ih =>
    rw [List.map_cons, mem_sequence_cons]
    simp only [mem_literal, ih]
    constructor
    · rintro ⟨_, rfl, _, rfl, rfl⟩
      rfl
    · rintro rfl
      exact ⟨_, rfl, _, rfl, rfl⟩

/-! ## Whole texts -/

theorem takes_sequence_append : Takes text (sequence (ps ++ qs)) i j ↔
    ∃ k, Takes text (sequence ps) i k ∧ Takes text (sequence qs) k j := by
  induction ps generalizing i with
  | nil =>
    constructor
    · exact fun h => ⟨i, rfl, h⟩
    · rintro ⟨k, rfl, h⟩
      exact h
  | cons p ps ih =>
    constructor
    · rintro ⟨k, hp, h⟩
      obtain ⟨l, hps, hqs⟩ := ih.1 h
      exact ⟨l, ⟨k, hp, hps⟩, hqs⟩
    · rintro ⟨l, ⟨k, hp, hps⟩, hqs⟩
      exact ⟨k, hp, ih.2 ⟨l, hps, hqs⟩⟩

theorem isPlain_sequence : (sequence ps).isPlain = ps.all isPlain := by
  induction ps with
  | nil => rfl
  | cons p ps ih =>
    rw [List.all_cons, ← ih]
    rfl

/-- Held at both ends, a pattern matches the texts that are words of it. -/
theorem occursIn_whole {s : String} (hps : ps.all isPlain = true) :
    (sequence (.start :: (ps ++ [.stop]))).occursIn s = true ↔
      s.toList ∈ (sequence ps).language := by
  rw [← isPlain_sequence] at hps
  have htakes : ∀ i j, Takes s.toList (sequence (.start :: (ps ++ [.stop]))) i j ↔
      i = 0 ∧ Takes s.toList (sequence ps) 0 s.toList.length ∧ j = s.toList.length := by
    intro i j
    constructor
    · rintro ⟨_, ⟨rfl, rfl⟩, h⟩
      obtain ⟨_, hps, _, ⟨rfl, rfl⟩, rfl⟩ := takes_sequence_append.1 h
      exact ⟨rfl, hps, rfl⟩
    · rintro ⟨rfl, hps, rfl⟩
      exact ⟨0, ⟨rfl, rfl⟩, takes_sequence_append.2 ⟨_, hps, _, ⟨rfl, rfl⟩, rfl⟩⟩
  rw [occursIn_iff]
  simp only [htakes]
  constructor
  · rintro ⟨_, _, -, rfl, h, rfl⟩
    obtain ⟨w, hw, hthere, hlength⟩ := (takes_iff_language hps).1 h
    rw [Nat.zero_add] at hlength
    rw [List.drop_zero] at hthere
    rwa [← hthere.eq_of_length hlength.symm]
  · intro h
    refine ⟨0, _, Nat.zero_le _, rfl, (takes_iff_language hps).2 ⟨_, h, ?_, ?_⟩, rfl⟩
    · exact List.prefix_rfl
    · exact (Nat.zero_add _).symm

end

end Pattern

namespace NameFilter

open Pattern

/-! ## The pattern of a filter -/

/-- A letter or digit. -/
def edgeClass : CharClass := ⟨false, false, [.range 'a' 'z', .range '0' '9']⟩

/-- A hyphen, letter or digit. -/
def nameClass : CharClass := ⟨false, false, [.range '-' '-', .range 'a' 'z', .range '0' '9']⟩

/-- A name. -/
def nameItems : List Pattern :=
  [.char edgeClass, optional (sequence [many (.char nameClass), .char edgeClass])]

/-- The fixed part. -/
def fixedItems (f : NameFilter) : List Pattern := f.fixed.toList.map (literal false)

def hyphenItem : Pattern := optional (literal false '-')

/-- What a filter accepts, between the ends of the text. -/
def items (f : NameFilter) : List Pattern :=
  match f.shape with
  | .startsWith => [sequence f.fixedItems, hyphenItem, sequence nameItems]
  | .endsWith => [sequence nameItems, hyphenItem, sequence f.fixedItems]
  | .contains => [optional (sequence nameItems), hyphenItem, sequence f.fixedItems, hyphenItem,
      optional (sequence nameItems)]

section

variable {c : Char} {w : List Char} {f : NameFilter}

theorem edgeClass_has : edgeClass.has c = Name.isEdge c := by
  rw [edgeClass, has_plain]
  simp only [List.any_cons, List.any_nil, Bool.or_false]
  rfl

theorem nameClass_has : nameClass.has c = Name.isNameChar c := by
  have hhyphen : (ClassItem.range '-' '-').has c = (c == '-') := by
    rw [Bool.eq_iff_iff, range_has_iff, beq_iff_eq]
  rw [nameClass, has_plain, List.any_cons, hhyphen, Bool.or_comm]
  simp only [List.any_cons, List.any_nil, Bool.or_false]
  rfl

theorem mem_nameItems : w ∈ (sequence nameItems).language ↔ Name.Formed w := by
  simp only [nameItems, mem_sequence_cons, mem_sequence_nil, mem_optional, mem_many_char, mem_char,
    edgeClass_has, nameClass_has, exists_eq_left, exists_eq_right, List.append_nil]
  unfold Name.Formed
  constructor
  · rintro ⟨_, ⟨first, rfl, hfirst⟩, _, rfl | ⟨middle, hmiddle, _, ⟨last, rfl, hlast⟩, rfl⟩, rfl⟩
    · exact ⟨first, hfirst, .inl rfl⟩
    · exact ⟨first, hfirst, .inr ⟨middle, last, rfl, hmiddle, hlast⟩⟩
  · rintro ⟨first, hfirst, rfl | ⟨middle, last, rfl, hmiddle, hlast⟩⟩
    · exact ⟨_, ⟨first, rfl, hfirst⟩, [], .inl rfl, rfl⟩
    · exact ⟨_, ⟨first, rfl, hfirst⟩, _, .inr ⟨middle, hmiddle, _, ⟨last, rfl, hlast⟩, rfl⟩, rfl⟩

theorem mem_hyphenItem : w ∈ hyphenItem.language ↔ ∃ b, Name.hyphen b = w := by
  rw [hyphenItem, mem_optional, mem_literal]
  constructor
  · rintro (rfl | rfl)
    · exact ⟨false, rfl⟩
    · exact ⟨true, rfl⟩
  · rintro ⟨b, rfl⟩
    cases b with
    | false => exact .inl rfl
    | true => exact .inr rfl

theorem mem_fixedItems : w ∈ (sequence f.fixedItems).language ↔ w = f.fixed.toList := mem_literals

theorem mem_optional_name : w ∈ (optional (sequence nameItems)).language ↔
    w = [] ∨ Name.Formed w := by
  rw [mem_optional, mem_nameItems]

theorem isPlain_items : f.items.all isPlain = true := by
  have hfixed : (sequence f.fixedItems).isPlain = true := by
    rw [isPlain_sequence, fixedItems, List.all_map, List.all_eq_true]
    exact fun _ _ => rfl
  unfold items
  cases f.shape <;> simp only [List.all_cons, List.all_nil, hfixed, Bool.and_true, Bool.true_and]
    <;> rfl

/-- The words of the items are the names that the filter accepts. -/
theorem mem_items {n : String} : n.toList ∈ (sequence f.items).language ↔ f.accepts n = true := by
  obtain ⟨shape, p⟩ := f
  cases shape with
  | startsWith =>
    rw [accepts_startsWith]
    simp only [items, mem_sequence_cons, mem_sequence_nil, mem_fixedItems, mem_hyphenItem,
      mem_nameItems, exists_eq_left, exists_eq_right, exists_exists_eq_and, List.append_nil]
    constructor
    · rintro ⟨_, ⟨b, name, hname, rfl⟩, heq⟩
      exact ⟨b, name, hname, heq.symm⟩
    · rintro ⟨b, name, hname, heq⟩
      exact ⟨_, ⟨b, name, hname, rfl⟩, heq.symm⟩
  | endsWith =>
    rw [accepts_endsWith]
    simp only [items, mem_sequence_cons, mem_sequence_nil, mem_fixedItems, mem_hyphenItem,
      mem_nameItems, exists_eq_left, exists_eq_left', exists_exists_eq_and, List.append_nil]
    constructor
    · rintro ⟨name, hname, b, heq⟩
      exact ⟨name, b, hname, by rw [List.append_assoc, heq]⟩
    · rintro ⟨name, b, hname, heq⟩
      exact ⟨name, hname, b, by rw [heq, List.append_assoc]⟩
  | contains =>
    rw [accepts_contains]
    simp only [items, mem_sequence_cons, mem_sequence_nil, mem_fixedItems, mem_hyphenItem,
      mem_optional_name, exists_eq_left, exists_eq_right, exists_exists_eq_and, List.append_nil]
    constructor
    · rintro ⟨front, hfront, _, ⟨b, _, ⟨_, ⟨b', back, hback, rfl⟩, rfl⟩, rfl⟩, heq⟩
      exact ⟨front, b, b', back, hfront, hback, by rw [List.append_assoc, heq]⟩
    · rintro ⟨front, b, b', back, hfront, hback, heq⟩
      refine ⟨front, hfront, _, ⟨b, _, ⟨_, ⟨b', back, hback, rfl⟩, rfl⟩, rfl⟩, ?_⟩
      rw [heq, List.append_assoc]

/-! ## Reading the pattern -/

theorem le_length_escaped (s : String) : s.length ≤ (escaped s).length := by
  rw [escaped, String.length_ofList, ← String.length_toList]
  induction s.toList with
  | nil => exact le_rfl
  | cons c cs ih =>
    have hc : 1 ≤ (if c = '-' then ['\\', '-'] else [c]).length := by split <;> simp
    rw [List.flatMap_cons, List.length_append, List.length_cons]
    omega

/-- The expression of a filter is no shorter than its fixed part. -/
theorem fixed_le_pattern (f : NameFilter) : f.fixed.length ≤ f.pattern.length := by
  obtain ⟨shape, p⟩ := f
  have h : p.length ≤ (escaped p).length := le_length_escaped p
  cases shape <;> simp only [pattern, toString, String.length_append] <;> omega

theorem readsAs_edge (h : Name.isEdge c = true) : ReadsAs [c] (literal false c) := by
  have hspecial : special.all (fun d => !Name.isEdge d) = true := by decide
  refine readsAs_literal fun hc => ?_
  have hnot : (!Name.isEdge c) = true := List.all_eq_true.1 hspecial c hc
  rw [h] at hnot
  cases hnot

theorem readsAs_hyphen : ReadsAs ['-'] (literal false '-') := readsAs_literal (by decide)

theorem readsAs_escapedHyphen : ReadsAs ['\\', '-'] (literal false '-') :=
  readsAs_of_atom (by decide) fun _ => rfl

theorem readsAs_edgeClass :
    ReadsAs ['[', 'a', '-', 'z', '0', '-', '9', ']'] (.char edgeClass) :=
  readsAs_of_atom (by decide) fun _ => by
    simp [atom?, class?, classItems?, classItems?.classFrom?, classAtom?, edgeClass]

theorem readsAs_nameClass :
    ReadsAs ['[', '-', 'a', '-', 'z', '0', '-', '9', ']'] (.char nameClass) :=
  readsAs_of_atom (by decide) fun _ => by
    simp [atom?, class?, classItems?, classItems?.classFrom?, classAtom?, nameClass]

theorem namePattern_reads : ReadsInTurn namePattern.toList nameItems := by
  have hmore : ReadsInTurn _ _ := readsAs_nameClass.many (readsAs_edgeClass.once readsInTurn_nil)
  exact readsAs_edgeClass.once (hmore.group.optional readsInTurn_nil)

theorem escaped_reads {fixed : String} (h : ∀ c ∈ fixed.toList, Name.isNameChar c = true) :
    ReadsInTurn (escaped fixed).toList (fixed.toList.map (literal false)) := by
  rw [escaped, String.toList_ofList]
  generalize fixed.toList = cs at h
  induction cs with
  | nil => exact readsInTurn_nil
  | cons c cs ih =>
    obtain ⟨hc, hcs⟩ := List.forall_mem_cons.1 h
    rw [List.flatMap_cons, List.map_cons]
    rcases Name.isNameChar_iff.1 hc with hedge | rfl
    · rw [if_neg (Name.isEdge_ne_hyphen hedge)]
      exact (readsAs_edge hedge).once (ih hcs)
    · exact readsAs_escapedHyphen.once (ih hcs)

theorem readsAs_start : ReadsAs ['^'] .start := readsAs_of_atom (by decide) fun _ => rfl

theorem readsAs_stop : ReadsAs ['$'] .stop := readsAs_of_atom (by decide) fun _ => rfl

/-- The pattern of a filter is read as its items between the ends of the text. -/
theorem pattern_reads (h : ∀ c ∈ f.fixed.toList, Name.isNameChar c = true) :
    ReadsInTurn f.pattern.toList (.start :: (f.items ++ [.stop])) := by
  have hname : ReadsAs ('(' :: (namePattern.toList ++ [')'])) (sequence nameItems) :=
    namePattern_reads.group
  have hfixed : ReadsAs ('(' :: ((escaped f.fixed).toList ++ [')'])) (sequence f.fixedItems) :=
    (escaped_reads h).group
  have hstop : ReadsInTurn ['$'] [.stop] := readsAs_stop.once readsInTurn_nil
  obtain ⟨shape, p⟩ := f
  cases shape with
  | startsWith =>
    have hread := readsAs_start.once (hfixed.once (readsAs_hyphen.optional (hname.once hstop)))
    simpa [pattern, toString, items, hyphenItem] using hread
  | endsWith =>
    have hread := readsAs_start.once (hname.once (readsAs_hyphen.optional (hfixed.once hstop)))
    simpa [pattern, toString, items, hyphenItem] using hread
  | contains =>
    have hread := readsAs_start.once (hname.optional (readsAs_hyphen.optional (hfixed.once
      (readsAs_hyphen.optional (hname.optional hstop)))))
    simpa [pattern, toString, items, hyphenItem] using hread

/-- The pattern of a filter matches the names that the filter accepts. -/
theorem pattern_matches (h : ∀ c ∈ f.fixed.toList, Name.isNameChar c = true) :
    ∃ p, Pattern.parse? f.pattern = some p ∧ ∀ n, p.occursIn n = f.accepts n := by
  refine ⟨_, (pattern_reads h).parse?, fun n => ?_⟩
  rw [Bool.eq_iff_iff, occursIn_whole isPlain_items, mem_items]

end

end NameFilter

namespace Glob

section

variable {part : Part} {f : NameFilter} {β : Type} {eval : Selector.Kind → β → Except Fault String}

theorem Part.fixed_chars (h : part.filter = some f) :
    ∀ c ∈ f.fixed.toList, Name.isNameChar c = true := by
  have hhyphen : ∀ b, ∀ c ∈ Name.hyphen b, Name.isNameChar c = true := by
    intro b c hc
    cases b with
    | false => cases hc
    | true =>
      obtain rfl : c = '-' := List.mem_singleton.1 hc
      rfl
  have happend : ∀ {cs ds : List Char}, (∀ c ∈ cs, Name.isNameChar c = true) →
      (∀ c ∈ ds, Name.isNameChar c = true) → ∀ c ∈ cs ++ ds, Name.isNameChar c = true :=
    fun hcs hds => List.forall_mem_append.2 ⟨hcs, hds⟩
  cases part with
  | star => cases h
  | beginning p after =>
    cases h
    rw [String.toList_ofList]
    exact happend p.formed.chars (hhyphen after)
  | ending before p =>
    cases h
    rw [String.toList_ofList]
    exact happend (hhyphen before) p.formed.chars
  | inside before p after =>
    cases h
    rw [String.toList_ofList]
    exact happend (hhyphen before) (happend p.formed.chars (hhyphen after))

theorem Form.exists_part {form : Form} (h : form.glob.filter = some f) :
    ∃ part : Part, part.filter = some f := by
  cases form with
  | here part => exact ⟨part, h⟩
  | within place part =>
    obtain ⟨part, -, hpart⟩ := Option.bind_eq_some_iff.1 h
    exact ⟨part, hpart⟩

/-- A query by a single text. -/
theorem parse_glob [Library] (s : String) : Query.parse eval [.glob s] = match Glob.read s with
    | .ok g => .ok ⟨g.scope, g.filter, ListOptions.none⟩
    | .error r => .error (.refused r) := by
  have hparse : Query.parse eval [.glob s] = Query.ofParts <$> (do
      Query.addArguments (Query.evaluation eval)
        (← Query.addArgument (Query.evaluation eval) ⟨none, none⟩ (.glob s)) []) := rfl
  have hadd : Query.addArgument (Query.evaluation eval) ⟨none, none⟩ (.glob s) =
      match Glob.read s with
      | .ok g => .ok ⟨some g, none⟩
      | .error r => .error (.refused r) := rfl
  rw [hparse, hadd]
  cases Glob.read s <;> rfl

theorem read_without_filter [Library] {form : Form} (h : form.glob.filter = none) :
    Glob.read form.text = .ok form.glob := by
  simp only [Glob.read, parse?_text, h]

theorem read_with_filter [Library] {form : Form} (h : form.glob.filter = some f) :
    Glob.read form.text =
      ((Library.compile f.pattern).mapError .badPattern).map fun _ => form.glob := by
  simp only [Glob.read, parse?_text, h]

theorem read_formless [Library] {s : String} (h : ¬ ∃ form : Form, form.text = s) :
    Glob.read s = .error .invalidGlob := by
  cases hparse : parse? s with
  | none => simp only [Glob.read, hparse]
  | some g =>
    obtain ⟨form, htext, -⟩ := exists_form hparse
    exact absurd ⟨form, htext⟩ h

/-- The texts that a query takes as globs are those of forms, and each has one form only, which
says where the query looks and which names it takes. A form without a filter is always taken; one
with a filter exactly if the expression of the filter compiles, and it is refused with the reason
if not. All other texts are refused. The expression of a filter is one that can be read, and
matches the names that the filter accepts. -/
theorem read_by_forms [Library] (eval : Selector.Kind → β → Except Fault String) :
    Function.Injective Form.text ∧
    (∀ form : Form, form.glob.filter = none →
      Query.parse eval [.glob form.text] = .ok ⟨form.glob.scope, none, ListOptions.none⟩) ∧
    (∀ (form : Form) (f : NameFilter), form.glob.filter = some f →
      (∀ test, Library.compile f.pattern = .ok test →
        Query.parse eval [.glob form.text] = .ok ⟨form.glob.scope, some f, ListOptions.none⟩) ∧
      (∀ text, Library.compile f.pattern = .error text →
        Query.parse eval [.glob form.text] = .error (.refused (.badPattern text)))) ∧
    (∀ s, (¬ ∃ form : Form, form.text = s) →
      Query.parse eval [.glob s] = .error (.refused .invalidGlob)) ∧
    ∀ (form : Form) (f : NameFilter), form.glob.filter = some f →
      ∃ p, Pattern.parse? f.pattern = some p ∧ ∀ n, p.occursIn n = f.accepts n := by
  refine ⟨text_injective, fun form hfilter => ?_, fun form f hfilter => ⟨?_, ?_⟩, fun s hs => ?_,
    fun form f hfilter => ?_⟩
  · rw [parse_glob, read_without_filter hfilter, ← hfilter]
  · intro test hcompiles
    rw [parse_glob, read_with_filter hfilter, hcompiles, ← hfilter]
    rfl
  · intro text hfails
    rw [parse_glob, read_with_filter hfilter, hfails]
    rfl
  · rw [parse_glob, read_formless hs]
  · obtain ⟨part, hpart⟩ := Form.exists_part hfilter
    exact NameFilter.pattern_matches (Part.fixed_chars hpart)

end

/-! ## Filters that are too long -/

section

open Library.Standard

/-- A name of the same letter over and over. -/
def letters (n : Nat) : ProperName where
  chars := List.replicate (n + 1) 'a'
  formed := by
    refine Name.formed_iff.2 ⟨fun c hc => ?_, ?_, ?_⟩
    · rw [List.eq_of_mem_replicate hc]
      rfl
    · rfl
    · simp [List.getLast?_replicate, Name.isEdge]

theorem letters_text (n : Nat) : (Form.here (.beginning (letters n) false)).text =
    String.ofList (List.replicate (n + 1) 'a' ++ ['*']) := by
  simp only [Form.text, Form.chars, Part.chars, letters, Name.hyphen, Bool.false_eq_true, if_false,
    List.append_nil]

/-- What begins with too many letters has a form, and is refused all the same. -/
theorem letters_refused {n : Nat} (h : Pattern.sizeLimit < Pattern.stateSize * (n + 1))
    (eval : Selector.Kind → Unit → Except Fault String) :
    Query.parse eval [.glob (Form.here (.beginning (letters n) false)).text] =
      .error (.refused (.badPattern
        s!"Compiled regex exceeds size limit of {Pattern.sizeLimit} bytes.")) := by
  have hlength : n + 1 ≤ (NameFilter.mk .startsWith
      (String.ofList ((letters n).chars ++ Name.hyphen false))).pattern.length := by
    refine le_trans (le_of_eq ?_) (NameFilter.fixed_le_pattern _)
    simp [letters, Name.hyphen]
  have hlong := lt_of_lt_of_le h (Nat.mul_le_mul_left Pattern.stateSize hlength)
  rw [parse_glob, read_with_filter (f := ⟨.startsWith, _⟩) rfl,
    show Library.compile _ = Pattern.compile _ from rfl, Pattern.compile, if_pos hlong]
  rfl

/-- A million letters and a star have a form, but their expression does not compile. -/
theorem million_letters_refused :
    (∃ form : Form, form.text = String.ofList (List.replicate 1000000 'a' ++ ['*'])) ∧
      Query.parse (fun _ (_ : Unit) => .ok "")
          [.glob (String.ofList (List.replicate 1000000 'a' ++ ['*']))] =
        .error (.refused (.badPattern
          "Compiled regex exceeds size limit of 10485760 bytes.")) := by
  refine ⟨⟨_, letters_text 999999⟩, ?_⟩
  rw [← letters_text 999999]
  exact letters_refused (by decide) _

end

end Glob

end ClusterScript
