import ClusterScript.Pattern.Parser

/-!
# How patterns are read

The reader of patterns is given fuel, three for each character. A text that
is put together from characters, groups and repetitions never runs out of it:
each part says how it is read whatever stands behind it, and what the parts
are read as is put together in the same way.

* `Pattern.ReadsAs`: a text is read as one item.
* `Pattern.ReadsInTurn`: a text is read as items, one after the other.
* `Pattern.ReadsInTurn.parse?`: such a text is a pattern.
-/
namespace ClusterScript.Pattern

/-- Patterns one after the other. -/
def sequence (ps : List Pattern) : Pattern := ps.foldr .seq .empty

/-- Once or not at all. -/
def optional (p : Pattern) : Pattern := repeated p (0, some 1)

/-- Any number of times. -/
def many (p : Pattern) : Pattern := repeated p (0, none)

/-- No repetition begins here. -/
def Unrepeated (cs : List Char) : Prop := repetition? cs = some (none, cs)

/-- A group, or the whole text, ends here. -/
def Closes (cs : List Char) : Prop := cs = [] ∨ ∃ rest, cs = ')' :: rest

/-- The text is read as one item, before any repetitions, whatever stands behind it. -/
structure ReadsAs (text : List Char) (p : Pattern) : Prop where
  nonempty : 0 < text.length
  unrepeated : ∀ rest, Unrepeated (text ++ rest)
  read : ∀ fuel rest, 3 * text.length ≤ fuel + 1 →
    sequence? (fuel + 1) false (text ++ rest) = continue? fuel false p rest

/-- The text is read as items up to where a group ends. -/
structure ReadsInTurn (text : List Char) (ps : List Pattern) : Prop where
  unrepeated : ∀ rest, Closes rest → Unrepeated (text ++ rest)
  read : ∀ fuel rest, Closes rest → 3 * text.length < fuel →
    sequence? fuel false (text ++ rest) = some (sequence ps, false, rest)

section

variable {c : Char} {cs rest text behind : List Char} {p : Pattern} {ps : List Pattern}
  {times : Nat × Option Nat} {fuel : Nat}

theorem unrepeated_cons (h : c ≠ '*' ∧ c ≠ '+' ∧ c ≠ '?' ∧ c ≠ '\x7b') : Unrepeated (c :: cs) := by
  unfold Unrepeated repetition?
  split <;> simp_all

theorem Closes.unrepeated (h : Closes cs) : Unrepeated cs := by
  rcases h with rfl | ⟨rest, rfl⟩
  · rfl
  · rfl

/-! ## Repetitions -/

theorem repeatAll_of_unrepeated (h : Unrepeated rest) : repeatAll fuel p rest = some (p, rest) := by
  cases fuel with
  | zero => rfl
  | succ fuel =>
    unfold repeatAll
    rw [h]

theorem repeatAll_of_count (hcount : repetition? cs = some (some times, rest))
    (hrest : Unrepeated rest) : repeatAll (fuel + 1) p cs = some (repeated p times, rest) := by
  unfold repeatAll
  rw [hcount]
  exact repeatAll_of_unrepeated hrest

/-- A mark is read as it is where no second one makes it lazy. -/
theorem repetition?_mark (h : Unrepeated rest) :
    repetition? ('?' :: rest) = some (some (0, some 1), rest) ∧
      repetition? ('*' :: rest) = some (some (0, none), rest) := by
  cases rest with
  | nil => exact ⟨rfl, rfl⟩
  | cons c rest =>
    have hc : c ≠ '?' := by
      rintro rfl
      cases h
    simp [repetition?, hc]

/-! ## Items in turn -/

theorem readsInTurn_nil : ReadsInTurn [] [] where
  unrepeated := fun _ hrest => hrest.unrepeated
  read := by
    intro fuel rest hrest hfuel
    obtain ⟨fuel, rfl⟩ := Nat.exists_eq_succ_of_ne_zero (Nat.ne_of_gt hfuel)
    rcases hrest with rfl | ⟨rest, rfl⟩
    · rfl
    · rfl

/-- An item is read, what repeats it, and then the items behind it. -/
theorem ReadsAs.cons {q : Pattern} (mark : List Char) (hp : ReadsAs text p)
    (hbehind : ReadsInTurn behind ps)
    (hmark : ∀ rest, Unrepeated (behind ++ rest) →
      repeatAll (mark ++ (behind ++ rest)).length p (mark ++ (behind ++ rest)) =
        some (q, behind ++ rest)) :
    ReadsInTurn (text ++ (mark ++ behind)) (q :: ps) where
  unrepeated := by
    intro rest _
    rw [List.append_assoc]
    exact hp.unrepeated _
  read := by
    intro fuel rest hrest hfuel
    have hpositive := hp.nonempty
    rw [List.length_append, List.length_append] at hfuel
    -- reading the item and what repeats it takes two of the fuel, and its text brings three
    obtain ⟨fuel, rfl⟩ : ∃ n, fuel = n + 2 := ⟨fuel - 2, by omega⟩
    rw [List.append_assoc, List.append_assoc, hp.read (fuel + 1) _ (by omega)]
    unfold continue?
    rw [hmark rest (hbehind.unrepeated rest hrest)]
    dsimp only
    rw [hbehind.read fuel rest hrest (by omega)]
    rfl

theorem ReadsAs.once (hp : ReadsAs text p) (hbehind : ReadsInTurn behind ps) :
    ReadsInTurn (text ++ behind) (p :: ps) :=
  hp.cons [] hbehind fun _ hrest => repeatAll_of_unrepeated hrest

theorem ReadsAs.optional (hp : ReadsAs text p) (hbehind : ReadsInTurn behind ps) :
    ReadsInTurn (text ++ '?' :: behind) (optional p :: ps) :=
  hp.cons ['?'] hbehind fun _ hrest =>
    repeatAll_of_count (repetition?_mark hrest).1 hrest

theorem ReadsAs.many (hp : ReadsAs text p) (hbehind : ReadsInTurn behind ps) :
    ReadsInTurn (text ++ '*' :: behind) (many p :: ps) :=
  hp.cons ['*'] hbehind fun _ hrest =>
    repeatAll_of_count (repetition?_mark hrest).2 hrest

/-! ## Items -/

/-- What is read without a group. -/
theorem readsAs_of_atom (hc : c ≠ '|' ∧ c ≠ ')' ∧ c ≠ '(')
    (hatom : ∀ rest, atom? false (c :: (cs ++ rest)) = some (p, rest)) : ReadsAs (c :: cs) p where
  nonempty := Nat.succ_pos _
  unrepeated := by
    intro rest
    refine unrepeated_cons ⟨?_, ?_, ?_, ?_⟩ <;> rintro rfl <;> cases hatom rest
  read := by
    intro fuel rest _
    obtain ⟨hbar, hclose, hopen⟩ := hc
    rw [List.cons_append]
    unfold sequence?
    split
    · next heq => cases heq
    · next heq => exact absurd (List.cons.inj heq).1 hbar
    · next heq => exact absurd (List.cons.inj heq).1 hclose
    · next heq => exact absurd (List.cons.inj heq).1 hopen
    · rw [hatom rest]

/-- The characters that do not stand for themselves outside of classes. -/
def special : List Char := ['.', '^', '$', '*', '+', '?', '\x7b', '[', '(', ')', '|', '\\']

theorem readsAs_literal (h : c ∉ special) : ReadsAs [c] (literal false c) := by
  simp only [special, List.mem_cons, List.not_mem_nil, or_false, not_or] at h
  refine readsAs_of_atom ⟨by simp [h], by simp [h], by simp [h]⟩ fun rest => ?_
  simp [atom?, h]

/-- Items in parentheses. -/
theorem ReadsInTurn.group (h : ReadsInTurn text ps) :
    ReadsAs ('(' :: (text ++ [')'])) (sequence ps) where
  nonempty := Nat.succ_pos _
  unrepeated := fun _ => unrepeated_cons (by decide)
  read := by
    intro fuel rest hfuel
    have hclose : Closes (')' :: rest) := .inr ⟨rest, rfl⟩
    have hopening : opening? false (text ++ ')' :: rest) =
        some (.group false, text ++ ')' :: rest) := by
      have hunrepeated := h.unrepeated _ hclose
      cases text with
      | nil => rfl
      | cons c text =>
        have hc : c ≠ '?' := by
          rintro rfl
          cases hunrepeated
        simp [opening?, hc]
    have hlength : ('(' :: (text ++ [')'])).length = text.length + 2 := by simp
    obtain ⟨fuel, rfl⟩ : ∃ n, fuel = n + 1 := ⟨fuel - 1, by omega⟩
    have hinside : alternatives? (fuel + 1) false (text ++ ')' :: rest) =
        some (sequence ps, ')' :: rest) := by
      unfold alternatives?
      rw [h.read fuel _ hclose (by omega)]
      rfl
    have htext : '(' :: (text ++ [')']) ++ rest = '(' :: (text ++ ')' :: rest) := by simp
    rw [htext]
    unfold sequence?
    simp only [hopening, hinside]

/-- Such a text is a pattern: there is fuel enough. -/
theorem ReadsInTurn.parse? {s : String} (h : ReadsInTurn s.toList ps) :
    Pattern.parse? s = some (sequence ps) := by
  have hlength : s.length = s.toList.length := String.length_toList.symm
  have hread := h.read (3 * s.length + 2) [] (.inl rfl) (by omega)
  rw [List.append_nil] at hread
  unfold Pattern.parse? alternatives?
  rw [hread]

end

end ClusterScript.Pattern
