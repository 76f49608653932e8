import ClusterScript.Proofs.Text.Cutting
import ClusterScript.Query.Glob

/-!
# The forms of globs

A glob has one of a few forms: a star, a namespace and a slash, or a name with
a star before it, behind it or on both sides; a hyphen may stand between the
name and a star. Every text of such a form is read as what the form asks for,
no other text is read, and no text has two forms.

* `Name.Formed`: a name, as the grammar has it.
* `Glob.Form`: the forms, with what they are written as and what they ask for.
* `Glob.parse?_text`, `Glob.exists_form`: reading accepts the texts of forms, and no others.
* `Glob.text_injective`: a text tells its form.
-/
namespace ClusterScript

namespace Name

/-! ## Names -/

/-- A letter or digit, and where more follows, it ends in one and has letters, digits and
hyphens in between. -/
def Formed (cs : List Char) : Prop :=
  ∃ first, isEdge first = true ∧ (cs = [first] ∨
    ∃ middle last, cs = first :: (middle ++ [last]) ∧ (∀ c ∈ middle, isNameChar c = true) ∧
      isEdge last = true)

/-- A hyphen, or nothing. -/
def hyphen (written : Bool) : List Char := if written then ['-'] else []

section

variable {c : Char} {cs : List Char}

theorem isNameChar_of_isEdge (h : isEdge c = true) : isNameChar c = true := by
  unfold isNameChar
  unfold isEdge at h
  rw [h, Bool.true_or]

theorem valid_iff_formed : valid cs = true ↔ Formed cs := by
  unfold valid Formed
  constructor
  · intro h
    obtain ⟨⟨hall, hfirst⟩, hlast⟩ : (cs.all isNameChar = true ∧ cs.head?.any isEdge = true) ∧
        cs.getLast?.any isEdge = true := by simpa only [Bool.and_eq_true] using h
    cases cs with
    | nil => cases hfirst
    | cons first rest =>
      refine ⟨first, by simpa using hfirst, ?_⟩
      rcases List.eq_nil_or_concat rest with rfl | ⟨middle, last, rfl⟩
      · exact .inl rfl
      · rw [List.concat_eq_append] at hall hlast ⊢
        refine .inr ⟨middle, last, rfl, fun c hc => List.all_eq_true.1 hall c (by simp [hc]), ?_⟩
        rwa [← List.cons_append, List.getLast?_append, List.getLast?_singleton, Option.some_or,
          Option.any_some] at hlast
  · rintro ⟨first, hfirst, rfl | ⟨middle, last, rfl, hmiddle, hlast⟩⟩
    · simp [hfirst, isNameChar_of_isEdge hfirst]
    · have hall : (first :: (middle ++ [last])).all isNameChar = true := by
        simpa [isNameChar_of_isEdge hfirst, isNameChar_of_isEdge hlast] using hmiddle
      rw [hall, ← List.cons_append, List.getLast?_append]
      simp [hfirst, hlast]

theorem Formed.chars (h : Formed cs) : ∀ c ∈ cs, isNameChar c = true := by
  have hvalid := valid_iff_formed.2 h
  unfold valid at hvalid
  simp only [Bool.and_eq_true] at hvalid
  exact List.all_eq_true.1 hvalid.1.1

theorem Formed.head (h : Formed cs) : ∃ first rest, cs = first :: rest ∧ isEdge first = true := by
  obtain ⟨first, hfirst, rfl | ⟨middle, last, rfl, -, -⟩⟩ := h
  · exact ⟨first, [], rfl, hfirst⟩
  · exact ⟨first, _, rfl, hfirst⟩

theorem Formed.last (h : Formed cs) : ∃ init last, cs = init ++ [last] ∧ isEdge last = true := by
  obtain ⟨first, hfirst, rfl | ⟨middle, last, rfl, -, hlast⟩⟩ := h
  · exact ⟨[], first, rfl, hfirst⟩
  · exact ⟨first :: middle, last, rfl, hlast⟩

theorem Formed.ne_nil (h : Formed cs) : cs ≠ [] := by
  obtain ⟨first, rest, rfl, -⟩ := h.head
  exact List.cons_ne_nil _ _

theorem isEdge_ne_hyphen (h : isEdge c = true) : c ≠ '-' := by
  rintro rfl
  cases h

theorem isNameChar_ne_star (h : isNameChar c = true) : c ≠ '*' := by
  rintro rfl
  cases h

theorem isNameChar_ne_slash (h : isNameChar c = true) : c ≠ '/' := by
  rintro rfl
  cases h

/-- A hyphen does not belong to what begins with a letter or digit behind it. -/
theorem hyphen_append_inj {c' : Char} {cs' : List Char} {b b' : Bool} (h : isEdge c = true)
    (h' : isEdge c' = true) (heq : hyphen b ++ c :: cs = hyphen b' ++ c' :: cs') :
    b = b' ∧ c :: cs = c' :: cs' := by
  have hne := isEdge_ne_hyphen h
  have hne' := (isEdge_ne_hyphen h').symm
  cases b <;> cases b' <;> simp_all [hyphen]

theorem Formed.hyphen_inj {cs' : List Char} {b b' : Bool} (h : Formed cs) (h' : Formed cs')
    (heq : hyphen b ++ cs = hyphen b' ++ cs') : b = b' ∧ cs = cs' := by
  obtain ⟨c, rest, rfl, hc⟩ := h.head
  obtain ⟨c', rest', rfl, hc'⟩ := h'.head
  exact hyphen_append_inj hc hc' heq

theorem hyphen_reverse (b : Bool) : (hyphen b).reverse = hyphen b := by
  cases b <;> rfl

/-- A hyphen does not belong to the name before it. -/
theorem Formed.inj_hyphen {cs' : List Char} {b b' : Bool} (h : Formed cs) (h' : Formed cs')
    (heq : cs ++ hyphen b = cs' ++ hyphen b') : cs = cs' ∧ b = b' := by
  obtain ⟨init, last, rfl, hlast⟩ := h.last
  obtain ⟨init', last', rfl, hlast'⟩ := h'.last
  have hmirrored : hyphen b ++ last :: init.reverse = hyphen b' ++ last' :: init'.reverse := by
    simpa [hyphen_reverse] using congrArg List.reverse heq
  obtain ⟨hb, hrest⟩ := hyphen_append_inj hlast hlast' hmirrored
  exact ⟨by simpa using congrArg List.reverse hrest, hb⟩

theorem validBeforeHyphen_iff :
    validBeforeHyphen cs = true ↔ ∃ name b, Formed name ∧ cs = name ++ hyphen b := by
  unfold validBeforeHyphen
  rw [Bool.or_eq_true, Bool.and_eq_true, valid_iff_formed, valid_iff_formed, beq_iff_eq]
  constructor
  · rintro (h | ⟨hlast, h⟩)
    · exact ⟨cs, false, h, by simp [hyphen]⟩
    · obtain ⟨init, rfl⟩ := List.getLast?_eq_some_iff.1 hlast
      rw [List.dropLast_concat] at h
      exact ⟨init, true, h, rfl⟩
  · rintro ⟨name, b, h, rfl⟩
    cases b with
    | false => exact .inl (by simpa [hyphen] using h)
    | true => exact .inr (by simpa [hyphen] using h)

theorem validAfterHyphen_iff :
    validAfterHyphen cs = true ↔ ∃ b name, Formed name ∧ cs = hyphen b ++ name := by
  unfold validAfterHyphen
  rw [Bool.or_eq_true, Bool.and_eq_true, valid_iff_formed, valid_iff_formed, beq_iff_eq]
  constructor
  · rintro (h | ⟨hhead, h⟩)
    · exact ⟨false, cs, h, rfl⟩
    · obtain ⟨tail, rfl⟩ := List.head?_eq_some_iff.1 hhead
      exact ⟨true, tail, h, rfl⟩
  · rintro ⟨b, name, h, rfl⟩
    cases b with
    | false => exact .inl (by simpa [hyphen] using h)
    | true => exact .inr (by simpa [hyphen] using h)

theorem validAmongHyphens_iff : validAmongHyphens cs = true ↔
    ∃ b name b', Formed name ∧ cs = hyphen b ++ (name ++ hyphen b') := by
  unfold validAmongHyphens
  rw [Bool.or_eq_true, Bool.and_eq_true, validBeforeHyphen_iff, validBeforeHyphen_iff, beq_iff_eq]
  constructor
  · rintro (⟨name, b', h, rfl⟩ | ⟨hhead, name, b', h, htail⟩)
    · exact ⟨false, name, b', h, rfl⟩
    · obtain ⟨tail, rfl⟩ := List.head?_eq_some_iff.1 hhead
      exact ⟨true, name, b', h, congrArg ('-' :: ·) htail⟩
  · rintro ⟨b, name, b', h, rfl⟩
    cases b with
    | false => exact .inl ⟨name, b', h, rfl⟩
    | true => exact .inr ⟨rfl, name, b', h, rfl⟩

end

end Name

/-- A name of the cluster. -/
@[ext] structure ProperName where
  chars : List Char
  formed : Name.Formed chars

namespace Glob

/-! ## Forms -/

/-- What may stand before the slash. -/
inductive Place
  | everywhere
  | named (n : ProperName)

/-- What may stand alone or behind a slash: a star, or a name with stars around it, perhaps with
hyphens in between. -/
inductive Part
  /-- `*` -/
  | star
  /-- `p*` -/
  | beginning (p : ProperName) (after : Bool)
  /-- `*p` -/
  | ending (before : Bool) (p : ProperName)
  /-- `*p*` -/
  | inside (before : Bool) (p : ProperName) (after : Bool)

inductive Form
  | here (part : Part)
  /-- A namespace, or all of them, and behind the slash a part or nothing. -/
  | within (place : Place) (part : Option Part)

def Place.chars : Place → List Char
  | .everywhere => ['*']
  | .named n => n.chars

def Place.scope : Place → Scope
  | .everywhere => .everywhere
  | .named n => .named (String.ofList n.chars)

def Part.chars : Part → List Char
  | .star => ['*']
  | .beginning p after => p.chars ++ Name.hyphen after ++ ['*']
  | .ending before p => '*' :: (Name.hyphen before ++ p.chars)
  | .inside before p after =>
    '*' :: (Name.hyphen before ++ (p.chars ++ Name.hyphen after) ++ ['*'])

/-- The filter of a part: the name with its hyphens is the fixed part. -/
def Part.filter : Part → Option NameFilter
  | .star => none
  | .beginning p after => some ⟨.startsWith, String.ofList (p.chars ++ Name.hyphen after)⟩
  | .ending before p => some ⟨.endsWith, String.ofList (Name.hyphen before ++ p.chars)⟩
  | .inside before p after =>
    some ⟨.contains, String.ofList (Name.hyphen before ++ (p.chars ++ Name.hyphen after))⟩

namespace Form

def chars : Form → List Char
  | .here part => part.chars
  | .within place part => place.chars ++ '/' :: (part.map Part.chars).getD []

/-- The form as a text. -/
def text (f : Form) : String := String.ofList f.chars

/-- What the form asks for. -/
def glob : Form → Glob
  | .here part => ⟨.current, part.filter⟩
  | .within place part => ⟨place.scope, part.bind Part.filter⟩

end Form

/-! ## Reading -/

section

variable {cs : List Char} {filter : NameFilter} {g : Glob}

theorem hyphen_ne {b : Bool} {c : Char} (h : c ∈ Name.hyphen b) : c ≠ '*' ∧ c ≠ '/' := by
  cases b with
  | false => cases h
  | true =>
    rw [Name.hyphen, if_pos rfl, List.mem_singleton] at h
    subst h
    exact ⟨by decide, by decide⟩

theorem ProperName.ne {p : ProperName} {c : Char} (h : c ∈ p.chars) : c ≠ '*' ∧ c ≠ '/' :=
  ⟨Name.isNameChar_ne_star (p.formed.chars c h), Name.isNameChar_ne_slash (p.formed.chars c h)⟩

theorem slash_notMem_part (part : Part) : '/' ∉ part.chars := by
  have hstar : ('/' : Char) ≠ '*' := by decide
  have hname : ∀ p : ProperName, '/' ∉ p.chars := fun p h => (ProperName.ne h).2 rfl
  have hhyphen : ∀ b, '/' ∉ Name.hyphen b := fun b h => (hyphen_ne h).2 rfl
  cases part <;> simp [Part.chars, hstar, hname, hhyphen]

theorem slash_notMem_place (place : Place) : '/' ∉ place.chars := by
  cases place with
  | everywhere => decide
  | named n => exact fun h => (ProperName.ne h).2 rfl

theorem scope?_chars (place : Place) : scope? place.chars = some place.scope := by
  cases place with
  | everywhere => rfl
  | named n =>
    have hstar : n.chars ≠ ['*'] := by
      intro h
      exact (ProperName.ne (p := n) (c := '*') (by simp [h])).1 rfl
    rw [scope?, Place.chars, if_neg hstar, if_pos (Name.valid_iff_formed.2 n.formed)]
    rfl

theorem scope?_eq_some {scope : Scope} (h : scope? cs = some scope) :
    ∃ place : Place, place.chars = cs ∧ place.scope = scope := by
  unfold scope? at h
  split at h
  · next heq =>
    cases h
    exact ⟨.everywhere, heq.symm, rfl⟩
  · split at h
    · next hvalid =>
      cases h
      exact ⟨.named ⟨cs, Name.valid_iff_formed.1 hvalid⟩, rfl, rfl⟩
    · cases h

/-- Neither a hyphen nor a name has a star. -/
theorem star_notMem (b : Bool) (p : ProperName) (b' : Bool) :
    '*' ∉ Name.hyphen b ++ (p.chars ++ Name.hyphen b') := by
  intro h
  rcases List.mem_append.1 h with h | h
  · exact (hyphen_ne h).1 rfl
  · rcases List.mem_append.1 h with h | h
    · exact (ProperName.ne h).1 rfl
    · exact (hyphen_ne h).1 rfl

theorem head?_ne_star (h : '*' ∉ cs) : (cs.head? == some '*') = false := by
  rw [beq_eq_false_iff_ne]
  exact fun hhead => h (List.mem_of_head? hhead)

theorem getLast?_ne_star (h : '*' ∉ cs) : (cs.getLast? == some '*') = false := by
  rw [beq_eq_false_iff_ne]
  exact fun hlast => h (List.mem_of_getLast? hlast)

theorem filter?_beginning (hne : cs ≠ []) (hstar : '*' ∉ cs) : filter? (cs ++ ['*']) =
    if Name.validBeforeHyphen cs then some ⟨.startsWith, String.ofList cs⟩ else none := by
  have hhead : ((cs ++ ['*']).head? == some '*') = false := by
    cases cs with
    | nil => exact absurd rfl hne
    | cons c rest =>
      rw [List.cons_append, List.head?_cons, ← List.head?_cons (l := rest)]
      exact head?_ne_star hstar
  have hlast : ((cs ++ ['*']).getLast? == some '*') = true := by simp
  rw [filter?]
  simp only [hhead, hlast, List.dropLast_concat]

theorem filter?_ending (hne : cs ≠ []) (hstar : '*' ∉ cs) : filter? ('*' :: cs) =
    if Name.validAfterHyphen cs then some ⟨.endsWith, String.ofList cs⟩ else none := by
  have hhead : (('*' :: cs).head? == some '*') = true := by simp
  have hlast : (('*' :: cs).getLast? == some '*') = false := by
    rw [List.getLast?_cons_of_ne_nil hne]
    exact getLast?_ne_star hstar
  rw [filter?]
  simp only [hhead, hlast, List.tail_cons]
  rfl

theorem filter?_inside : filter? ('*' :: (cs ++ ['*'])) =
    if Name.validAmongHyphens cs then some ⟨.contains, String.ofList cs⟩ else none := by
  have hhead : (('*' :: (cs ++ ['*'])).head? == some '*') = true := by simp
  have hlast : (('*' :: (cs ++ ['*'])).getLast? == some '*') = true := by
    rw [← List.cons_append, List.getLast?_concat]
    rfl
  rw [filter?]
  simp only [hhead, hlast, List.tail_cons, List.dropLast_concat]

/-- The filter of a part is read from it. -/
theorem filter?_chars {part : Part} (h : part.filter = some filter) :
    filter? part.chars = some filter := by
  cases part with
  | star => cases h
  | beginning p after =>
    have hne : p.chars ++ Name.hyphen after ≠ [] := by simp [p.formed.ne_nil]
    rw [Part.chars, filter?_beginning hne (star_notMem false p after),
      if_pos (Name.validBeforeHyphen_iff.2 ⟨_, _, p.formed, rfl⟩)]
    exact h
  | ending before p =>
    have hne : Name.hyphen before ++ p.chars ≠ [] := by simp [p.formed.ne_nil]
    have hstar : '*' ∉ Name.hyphen before ++ p.chars := by
      simpa [Name.hyphen] using star_notMem before p false
    rw [Part.chars, filter?_ending hne hstar,
      if_pos (Name.validAfterHyphen_iff.2 ⟨_, _, p.formed, rfl⟩)]
    exact h
  | inside before p after =>
    rw [Part.chars, filter?_inside, if_pos (Name.validAmongHyphens_iff.2 ⟨_, _, _, p.formed, rfl⟩)]
    exact h

/-- A filter is read from parts only. -/
theorem exists_part_of_filter (h : filter? cs = some filter) :
    ∃ part : Part, part.chars = cs ∧ part.filter = some filter := by
  unfold filter? at h
  split at h
  · next hhead hlast =>
    split at h
    · next hvalid =>
      cases h
      obtain ⟨init, rfl⟩ := List.getLast?_eq_some_iff.1 (beq_iff_eq.1 hlast)
      rw [List.dropLast_concat] at hvalid ⊢
      obtain ⟨name, after, hname, rfl⟩ := Name.validBeforeHyphen_iff.1 hvalid
      exact ⟨.beginning ⟨name, hname⟩ after, rfl, rfl⟩
    · cases h
  · next hhead hlast =>
    split at h
    · next hvalid =>
      cases h
      obtain ⟨tail, rfl⟩ := List.head?_eq_some_iff.1 (beq_iff_eq.1 hhead)
      obtain ⟨before, name, hname, heq⟩ := Name.validAfterHyphen_iff.1 hvalid
      rw [List.tail_cons] at heq ⊢
      subst heq
      exact ⟨.ending before ⟨name, hname⟩, rfl, rfl⟩
    · cases h
  · next hhead hlast =>
    split at h
    · next hvalid =>
      cases h
      obtain ⟨tail, rfl⟩ := List.head?_eq_some_iff.1 (beq_iff_eq.1 hhead)
      obtain ⟨before, name, after, hname, heq⟩ := Name.validAmongHyphens_iff.1 hvalid
      rw [List.tail_cons] at heq
      have hne : tail ≠ [] := by
        rintro rfl
        simp [hname.ne_nil] at heq
      rw [List.getLast?_cons_of_ne_nil hne, beq_iff_eq] at hlast
      obtain ⟨init, rfl⟩ := List.getLast?_eq_some_iff.1 hlast
      rw [List.dropLast_concat] at heq
      subst heq
      exact ⟨.inside before ⟨name, hname⟩ after, rfl, by simp [Part.filter]⟩
    · cases h
  · cases h

theorem Part.chars_ne_nil (part : Part) : part.chars ≠ [] := by
  cases part <;> simp [Part.chars]

theorem nameFilter?_chars (part : Part) : nameFilter? part.chars = some part.filter := by
  cases hfilter : part.filter with
  | none =>
    cases part with
    | star => rfl
    | _ => cases hfilter
  | some filter =>
    have hread := filter?_chars hfilter
    have hstar : part.chars ≠ ['*'] := by
      intro hchars
      rw [hchars] at hread
      cases hread
    rw [nameFilter?, if_neg (by simp [part.chars_ne_nil, hstar]), hread]
    rfl

theorem nameFilter?_eq_some {found : Option NameFilter} (h : nameFilter? cs = some found) :
    ∃ part : Option Part, (part.map Part.chars).getD [] = cs ∧ part.bind Part.filter = found := by
  unfold nameFilter? at h
  split at h
  · next hcs =>
    cases h
    rcases hcs with rfl | rfl
    · exact ⟨none, rfl, rfl⟩
    · exact ⟨some .star, rfl, rfl⟩
  · obtain ⟨filter, hread, rfl⟩ := Option.map_eq_some_iff.1 h
    obtain ⟨part, hchars, hfilter⟩ := exists_part_of_filter hread
    exact ⟨some part, hchars, hfilter⟩

/-- Without a slash, a glob asks for names in the namespace of the session. -/
theorem parse?_of_notMem {s : String} (h : '/' ∉ s.toList) (hne : s.toList ≠ []) :
    parse? s = (nameFilter? s.toList).map fun filter => ⟨.current, filter⟩ := by
  have hstar : s = "*" ↔ s.toList = ['*'] := String.toList_inj.symm
  unfold parse? nameFilter?
  rw [Text.splitOnceChars_eq_none h]
  dsimp only
  by_cases hs : s.toList = ['*']
  · rw [if_pos (hstar.2 hs), if_pos (.inr hs)]
    rfl
  · rw [if_neg (fun heq => hs (hstar.1 heq)), if_neg (not_or.2 ⟨hne, hs⟩), Option.map_map]
    rfl

/-- Behind the first slash, a glob asks for names in the namespace before it. -/
theorem parse?_of_append {s : String} {ns rest : List Char} (hs : s.toList = ns ++ '/' :: rest)
    (hns : '/' ∉ ns) : parse? s = (do return ⟨← scope? ns, ← nameFilter? rest⟩) := by
  have hsplit : Text.splitOnceChars ['/'] s.toList = some (ns, rest) := by
    rw [hs]
    exact Text.splitOnceChars_append hns
  unfold parse?
  rw [hsplit]

/-- A form is read as what it asks for. -/
theorem parse?_text (f : Form) : parse? f.text = some f.glob := by
  have hchars : f.text.toList = f.chars := String.toList_ofList
  cases f with
  | here part =>
    have hslash : '/' ∉ (Form.here part).text.toList := hchars ▸ slash_notMem_part part
    have hne : (Form.here part).text.toList ≠ [] := hchars ▸ part.chars_ne_nil
    rw [parse?_of_notMem hslash hne, hchars, Form.chars, nameFilter?_chars]
    rfl
  | within place part =>
    have hread : nameFilter? ((part.map Part.chars).getD []) = some (part.bind Part.filter) := by
      cases part with
      | none => rfl
      | some part => exact nameFilter?_chars part
    rw [parse?_of_append hchars (slash_notMem_place place), scope?_chars, hread]
    rfl

/-- Only the texts of forms are read. -/
theorem exists_form {s : String} (h : parse? s = some g) :
    ∃ f : Form, f.text = s ∧ f.glob = g := by
  have htext : ∀ {f : Form}, f.chars = s.toList → f.text = s := by
    intro f hf
    rw [Form.text, hf, String.ofList_toList]
  by_cases hslash : '/' ∈ s.toList
  · obtain ⟨ns, rest, hs, hns⟩ := List.eq_append_cons_of_mem hslash
    rw [parse?_of_append hs hns] at h
    obtain ⟨scope, hscope, h⟩ := Option.bind_eq_some_iff.1 h
    obtain ⟨filter, hread, h⟩ := Option.bind_eq_some_iff.1 h
    obtain ⟨place, rfl, rfl⟩ := scope?_eq_some hscope
    obtain ⟨part, hchars, rfl⟩ := nameFilter?_eq_some hread
    refine ⟨.within place part, htext ?_, Option.some.inj h⟩
    rw [hs, Form.chars, hchars]
  · by_cases hne : s.toList = []
    · obtain rfl : s = "" := String.toList_inj.1 hne
      cases h
    · rw [parse?_of_notMem hslash hne] at h
      obtain ⟨filter, hread, rfl⟩ := Option.map_eq_some_iff.1 h
      obtain ⟨part, hchars, hfilter⟩ := nameFilter?_eq_some hread
      cases part with
      | none => exact absurd hchars.symm hne
      | some part => exact ⟨.here part, htext hchars, congrArg _ hfilter⟩

/-! ## Texts tell forms -/

theorem Place.scope_injective : Function.Injective Place.scope := by
  intro a b h
  cases a with
  | everywhere =>
    cases b with
    | everywhere => rfl
    | named n => cases h
  | named n =>
    cases b with
    | everywhere => cases h
    | named m =>
      have hchars : n.chars = m.chars := String.ofList_injective (Scope.named.inj h)
      rw [ProperName.ext hchars]

/-- A filter tells the part that it comes from. -/
theorem Part.eq_of_filter {a b : Part} (h : a.filter = some filter) (h' : b.filter = some filter) :
    a = b := by
  have hsame : a.filter = b.filter := h.trans h'.symm
  cases a <;> cases b <;> simp only [Part.filter, reduceCtorEq, Option.some.injEq,
    NameFilter.mk.injEq, false_and, true_and, String.ofList_inj] at hsame h h'
  · next p after p' after' =>
    obtain ⟨hname, rfl⟩ := p.formed.inj_hyphen p'.formed hsame
    rw [ProperName.ext hname]
  · next before p before' p' =>
    obtain ⟨rfl, hname⟩ := p.formed.hyphen_inj p'.formed hsame
    rw [ProperName.ext hname]
  · next before p after before' p' after' =>
    obtain ⟨c, rest, hp, hc⟩ := p.formed.head
    obtain ⟨c', rest', hp', hc'⟩ := p'.formed.head
    have hboth := hsame
    rw [hp, hp'] at hboth
    obtain ⟨rfl, -⟩ := Name.hyphen_append_inj hc hc' hboth
    obtain ⟨hname, rfl⟩ := p.formed.inj_hyphen p'.formed (List.append_cancel_left hsame)
    rw [ProperName.ext hname]

theorem Part.eq_star {part : Part} (h : part.filter = none) : part = .star := by
  cases part with
  | star => rfl
  | _ => cases h

theorem Part.chars_injective : Function.Injective Part.chars := by
  intro a b h
  have hfilter : a.filter = b.filter := by
    have hread := nameFilter?_chars a
    rw [h, nameFilter?_chars b] at hread
    exact (Option.some.inj hread).symm
  cases hb : b.filter with
  | none => rw [Part.eq_star (hfilter.trans hb), Part.eq_star hb]
  | some filter => exact Part.eq_of_filter (hfilter.trans hb) hb

/-- A text has one form at most, so it does not matter in which order the forms are tried. -/
theorem text_injective : Function.Injective Form.text := by
  intro f f' h
  have hchars : f.chars = f'.chars := String.ofList_injective h
  have hscope : f.glob.scope = f'.glob.scope := by
    have hread := parse?_text f
    rw [h, parse?_text f'] at hread
    exact congrArg Glob.scope (Option.some.inj hread).symm
  cases f with
  | here part =>
    cases f' with
    | here part' => rw [Part.chars_injective hchars]
    | within place part' => cases place <;> cases hscope
  | within place part =>
    cases f' with
    | here part' => cases place <;> cases hscope
    | within place' part' =>
      obtain rfl : place = place' := Place.scope_injective hscope
      have hrest : (part.map Part.chars).getD [] = (part'.map Part.chars).getD [] :=
        (List.cons.inj (List.append_cancel_left hchars)).2
      cases part with
      | none =>
        cases part' with
        | none => rfl
        | some b => exact absurd hrest.symm b.chars_ne_nil
      | some a =>
        cases part' with
        | none => exact absurd hrest a.chars_ne_nil
        | some b => rw [Part.chars_injective hrest]

end

end Glob

end ClusterScript
