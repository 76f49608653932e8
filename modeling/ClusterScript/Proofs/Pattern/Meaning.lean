import ClusterScript.Pattern.Basic
import Mathlib.Computability.Language

/-!
# What patterns match

A pattern takes a position of a text to the positions behind what it matches
there. The matcher, which works on sets of positions, finds exactly these
(`image_iff`), and so a pattern occurs in a text exactly where it takes some
position to another (`occursIn_iff`).

A pattern without assertions does not look at what stands around a match: it
takes a position over the words of its language (`takes_iff_language`).

* `Pattern.Takes`: the positions that a pattern takes a position to.
* `Pattern.closure_closed`: the matcher of a star does not stop too early.
* `Pattern.language`: the words of a pattern without assertions.
-/
namespace ClusterScript.Pattern

/-! ## Positions -/

/-- Whether a word character stands before a position. -/
def wordBefore (text : List Char) : Nat → Bool
  | 0 => false
  | i + 1 => text[i]?.any Text.isWordChar

/-- From a position of a text, a pattern matches up to another one. -/
def Takes (text : List Char) : Pattern → Nat → Nat → Prop
  | .empty, i, j => j = i
  | .char k, i, j => j = i + 1 ∧ ∃ c, text[i]? = some c ∧ k.has c = true
  | .start, i, j => i = 0 ∧ j = 0
  | .stop, i, j => i = text.length ∧ j = text.length
  | .boundary negated, i, j => j = i ∧ i ≤ text.length ∧
      ((wordBefore text i != text[i]?.any Text.isWordChar) != negated) = true
  | .seq a b, i, j => ∃ k, Takes text a i k ∧ Takes text b k j
  | .alt a b, i, j => Takes text a i j ∨ Takes text b i j
  | .star a, i, j => Relation.ReflTransGen (Takes text a) i j

section

variable {text : List Char} {s t : Positions} {i j : Nat} {R : Nat → Nat → Prop}

theorem union_iff (h : s.length = t.length) :
    (union s t)[i]? = some true ↔ s[i]? = some true ∨ t[i]? = some true := by
  unfold union
  rw [List.getElem?_zipWith]
  by_cases hi : i < s.length
  · have hi' : i < t.length := h ▸ hi
    rw [List.getElem?_eq_getElem hi, List.getElem?_eq_getElem hi']
    simp only [Option.some.injEq, Bool.or_eq_true]
  · have hi' : ¬ i < t.length := h ▸ hi
    rw [List.getElem?_eq_none (Nat.not_lt.1 hi), List.getElem?_eq_none (Nat.not_lt.1 hi')]
    simp only [reduceCtorEq, or_self]

theorem meet_iff : (meet s t)[i]? = some true ↔ s[i]? = some true ∧ t[i]? = some true := by
  unfold meet
  rw [List.getElem?_zipWith]
  cases s[i]? <;> cases t[i]? <;> simp

theorem step_iff {k : CharClass} : (step k text s)[j]? = some true ↔
    ∃ i, s[i]? = some true ∧ Takes text (.char k) i j := by
  unfold step
  cases j with
  | zero =>
    rw [List.getElem?_cons_zero]
    constructor
    · intro h
      cases h
    · rintro ⟨i, -, heq, -⟩
      cases heq
  | succ j =>
    rw [List.getElem?_cons_succ, List.getElem?_zipWith]
    constructor
    · intro h
      cases hs : s[j]? with
      | none => rw [hs] at h; cases h
      | some here =>
        cases htext : text[j]? with
        | none => rw [hs, htext] at h; cases h
        | some c =>
          rw [hs, htext] at h
          obtain ⟨rfl, hk⟩ := Bool.and_eq_true_iff.1 (Option.some.inj h)
          exact ⟨j, hs, rfl, c, htext, hk⟩
    · rintro ⟨i, hs, heq, c, hc, hk⟩
      obtain rfl : j = i := Nat.succ.inj heq
      rw [hs, hc]
      simp only [hk, Bool.and_self]

theorem getElem?_unmarked : (text.map fun _ => false)[i]? ≠ some true := by
  rw [List.getElem?_map]
  cases text[i]? <;> simp

theorem firstOnly_iff : (firstOnly text)[i]? = some true ↔ i = 0 := by
  unfold firstOnly
  cases i with
  | zero => simp only [List.getElem?_cons_zero]
  | succ i =>
    rw [List.getElem?_cons_succ]
    exact iff_of_false getElem?_unmarked (Nat.succ_ne_zero i)

theorem lastOnly_iff : (lastOnly text)[i]? = some true ↔ i = text.length := by
  unfold lastOnly
  have hsize : (text.map fun _ => false).length = text.length := List.length_map _
  by_cases hi : i < text.length
  · rw [List.getElem?_append_left (by rwa [hsize])]
    exact iff_of_false getElem?_unmarked (Nat.ne_of_lt hi)
  · rw [List.getElem?_append_right (by omega), hsize, List.getElem?_singleton]
    by_cases hzero : i - text.length = 0
    · rw [if_pos hzero]
      exact iff_of_true rfl (by omega)
    · rw [if_neg hzero]
      exact iff_of_false (by simp) (by omega)

theorem getElem?_boundaries (text : List Char) (before : Bool) (i : Nat) :
    (boundaries before text)[i]? = if i ≤ text.length then
      some ((if i = 0 then before else wordBefore text i) != text[i]?.any Text.isWordChar)
    else none := by
  induction text generalizing before i with
  | nil =>
    cases i with
    | zero => simp [boundaries]
    | succ i =>
      rw [if_neg (by simp)]
      rfl
  | cons c rest ih =>
    cases i with
    | zero =>
      rw [boundaries, if_pos (Nat.zero_le _), if_pos rfl, List.getElem?_cons_zero,
        List.getElem?_cons_zero, Option.any_some]
    | succ i =>
      rw [boundaries, List.getElem?_cons_succ, List.getElem?_cons_succ, ih,
        if_neg (Nat.succ_ne_zero i), wordBefore]
      simp only [List.length_cons, Nat.add_le_add_iff_right]
      cases i with
      | zero => rw [if_pos rfl, List.getElem?_cons_zero, Option.any_some]
      | succ i => rw [if_neg (Nat.succ_ne_zero i), List.getElem?_cons_succ, wordBefore]

theorem length_boundaries (before : Bool) : (boundaries before text).length = text.length + 1 := by
  induction text generalizing before with
  | nil => rfl
  | cons c rest ih => rw [boundaries, List.length_cons, List.length_cons, ih]

theorem boundaries_iff {negated : Bool} :
    ((boundaries false text).map (· != negated))[i]? = some true ↔ i ≤ text.length ∧
      ((wordBefore text i != text[i]?.any Text.isWordChar) != negated) = true := by
  rw [List.getElem?_map, getElem?_boundaries]
  by_cases hi : i ≤ text.length
  · cases i with
    | zero => simp [wordBefore]
    | succ i => simp [hi]
  · simp [hi]

/-! ## Stars -/

theorem length_union (h : s.length = t.length) : (union s t).length = s.length := by
  simp [union, h]

/-- Adding positions leaves fewer that are missing, unless nothing is added. -/
theorem count_union : ∀ {s t : Positions}, s.length = t.length →
    (union s t).count false ≤ s.count false ∧
      (union s t ≠ s → (union s t).count false < s.count false)
  | [], [], _ => by simp [union]
  | a :: s, b :: t, h => by
    obtain ⟨hle, hlt⟩ := count_union (s := s) (t := t) (by simpa using h)
    have hcons : union (a :: s) (b :: t) = (a || b) :: union s t := rfl
    rw [hcons]
    cases a <;> cases b <;> simp_all
    omega

theorem union_eq_self (h : s.length = t.length) (hs : s.count false = 0) : union s t = s := by
  by_contra hne
  have := (count_union h).2 hne
  omega

variable {f : Positions → Positions} {size fuel : Nat}

theorem length_closure (hlength : ∀ s, s.length = size → (f s).length = size)
    (hs : s.length = size) : (closure f fuel s).length = size := by
  induction fuel generalizing s with
  | zero => exact hs
  | succ fuel ih =>
    unfold closure
    dsimp only
    split
    · exact hs
    · exact ih (by rw [length_union (by rw [hlength s hs, hs]), hs])

/-- With as much fuel as there are positions missing, nothing more can be reached in the end. -/
theorem closure_closed (hlength : ∀ s, s.length = size → (f s).length = size)
    (hs : s.length = size) (hfuel : s.count false ≤ fuel) :
    union (closure f fuel s) (f (closure f fuel s)) = closure f fuel s := by
  induction fuel generalizing s with
  | zero => exact union_eq_self (by rw [closure, hlength s hs, hs]) (by rw [closure]; omega)
  | succ fuel ih =>
    have hsame : s.length = (f s).length := by rw [hlength s hs, hs]
    unfold closure
    dsimp only
    split
    · next heq => exact heq
    · next hne =>
      have hfewer := (count_union hsame).2 hne
      exact ih (by rw [length_union hsame, hs]) (by omega)

theorem closure_keeps (hlength : ∀ s, s.length = size → (f s).length = size)
    (hs : s.length = size) (hi : s[i]? = some true) : (closure f fuel s)[i]? = some true := by
  induction fuel generalizing s with
  | zero => exact hi
  | succ fuel ih =>
    have hsame : s.length = (f s).length := by rw [hlength s hs, hs]
    unfold closure
    dsimp only
    split
    · exact hi
    · exact ih (by rw [length_union hsame, hs]) ((union_iff hsame).2 (.inl hi))

/-- A star is found by adding positions until there are no more. -/
theorem closure_iff (hlength : ∀ s, s.length = size → (f s).length = size)
    (hf : ∀ s j, s.length = size → ((f s)[j]? = some true ↔ ∃ i, s[i]? = some true ∧ R i j))
    (hs : s.length = size) (hfuel : size ≤ fuel) :
    (closure f fuel s)[j]? = some true ↔
      ∃ i, s[i]? = some true ∧ Relation.ReflTransGen R i j := by
  constructor
  · clear hfuel
    induction fuel generalizing s with
    | zero => exact fun h => ⟨j, h, .refl⟩
    | succ fuel ih =>
      have hsame : s.length = (f s).length := by rw [hlength s hs, hs]
      unfold closure
      dsimp only
      split
      · exact fun h => ⟨j, h, .refl⟩
      · intro h
        obtain ⟨k, hk, hstar⟩ := ih (by rw [length_union hsame, hs]) h
        rcases (union_iff hsame).1 hk with hk | hk
        · exact ⟨k, hk, hstar⟩
        · obtain ⟨i, hi, hstep⟩ := (hf s k hs).1 hk
          exact ⟨i, hi, .head hstep hstar⟩
  · rintro ⟨i, hi, hstar⟩
    have hcount : s.count false ≤ fuel :=
      Nat.le_trans (Nat.le_trans List.count_le_length (Nat.le_of_eq hs)) hfuel
    have hclosed := closure_closed hlength hs hcount
    have hsize : (closure f fuel s).length = size := length_closure hlength hs
    induction hstar with
    | refl => exact closure_keeps hlength hs hi
    | tail _ hstep ih =>
      have hnext := (hf _ _ hsize).2 ⟨_, ih, hstep⟩
      rw [← hclosed, union_iff (by rw [hlength _ hsize, hsize])]
      exact .inr hnext

/-! ## The matcher -/

theorem length_image (p : Pattern) : ∀ {s : Positions}, s.length = text.length + 1 →
    (image text p s).length = text.length + 1 := by
  induction p with
  | empty => exact fun hs => hs
  | char k => intro s hs; simp [image, step, hs]
  | start => intro s hs; simp [image, meet, firstOnly, hs]
  | stop => intro s hs; simp [image, meet, lastOnly, hs]
  | boundary negated =>
    intro s hs
    simp [image, meet, length_boundaries, hs]
  | seq a b iha ihb => exact fun hs => ihb (iha hs)
  | alt a b iha ihb =>
    intro s hs
    rw [image, length_union (by rw [iha hs, ihb hs]), iha hs]
  | star a ih => exact fun hs => length_closure (fun _ => ih) hs

/-- The matcher finds the positions that the pattern takes some position of the set to. -/
theorem image_iff (p : Pattern) : ∀ {s : Positions} {j : Nat}, s.length = text.length + 1 →
    ((image text p s)[j]? = some true ↔ ∃ i, s[i]? = some true ∧ Takes text p i j) := by
  induction p with
  | empty =>
    intro s j _
    simp [image, Takes]
  | char k => exact fun _ => step_iff
  | start =>
    intro s j _
    rw [image, meet_iff, firstOnly_iff]
    simp only [Takes]
    constructor
    · rintro ⟨h, rfl⟩
      exact ⟨0, h, rfl, rfl⟩
    · rintro ⟨_, h, rfl, rfl⟩
      exact ⟨h, rfl⟩
  | stop =>
    intro s j _
    rw [image, meet_iff, lastOnly_iff]
    simp only [Takes]
    constructor
    · rintro ⟨h, rfl⟩
      exact ⟨_, h, rfl, rfl⟩
    · rintro ⟨_, h, rfl, rfl⟩
      exact ⟨h, rfl⟩
  | boundary negated =>
    intro s j _
    rw [image, meet_iff, boundaries_iff]
    simp only [Takes]
    constructor
    · rintro ⟨h, hle, hword⟩
      exact ⟨j, h, rfl, hle, hword⟩
    · rintro ⟨_, h, rfl, hle, hword⟩
      exact ⟨h, hle, hword⟩
  | seq a b iha ihb =>
    intro s j hs
    rw [image, ihb (length_image a hs)]
    constructor
    · rintro ⟨k, hk, hb⟩
      obtain ⟨i, hi, ha⟩ := (iha hs).1 hk
      exact ⟨i, hi, k, ha, hb⟩
    · rintro ⟨i, hi, k, ha, hb⟩
      exact ⟨k, (iha hs).2 ⟨i, hi, ha⟩, hb⟩
  | alt a b iha ihb =>
    intro s j hs
    rw [image, union_iff (by rw [length_image a hs, length_image b hs]), iha hs, ihb hs]
    simp only [Takes, and_or_left, exists_or]
  | star a ih =>
    intro s j hs
    exact closure_iff (fun _ => length_image a) (fun _ _ hs => ih hs) hs (Nat.le_refl _)

/-- A pattern occurs in a text if it takes some position of the text to another one. -/
theorem occursIn_iff {p : Pattern} {s : String} :
    p.occursIn s = true ↔ ∃ i j, i ≤ s.toList.length ∧ Takes s.toList p i j := by
  have hall : ∀ i, (List.replicate (s.toList.length + 1) true)[i]? = some true ↔
      i ≤ s.toList.length := by
    intro i
    rw [List.getElem?_replicate]
    by_cases hi : i < s.toList.length + 1
    · rw [if_pos hi]
      exact iff_of_true rfl (by omega)
    · rw [if_neg hi]
      exact iff_of_false (by simp) (by omega)
  have hany : p.occursIn s = true ↔ ∃ j : Nat, (image s.toList p
      (List.replicate (s.toList.length + 1) true))[j]? = some true := by
    unfold occursIn
    dsimp only
    rw [List.any_eq_true]
    constructor
    · rintro ⟨b, hb, rfl⟩
      exact List.mem_iff_getElem?.1 hb
    · rintro ⟨j, hj⟩
      exact ⟨true, List.mem_of_getElem? hj, rfl⟩
  rw [hany, exists_comm]
  refine exists_congr fun j => ?_
  rw [image_iff p List.length_replicate]
  simp only [hall]

end

/-! ## Words -/

/-- The words of a pattern without assertions. -/
def language : Pattern → Language Char
  | .empty => 1
  | .char k => {w | ∃ c, w = [c] ∧ k.has c = true}
  | .start | .stop | .boundary _ => 0
  | .seq a b => a.language * b.language
  | .alt a b => a.language + b.language
  | .star a => KStar.kstar a.language

/-- Whether a pattern has no assertions. -/
def isPlain : Pattern → Bool
  | .start | .stop | .boundary _ => false
  | .seq a b | .alt a b => a.isPlain && b.isPlain
  | .star a => a.isPlain
  | .empty | .char _ => true

section

variable {text u v : List Char} {i j : Nat}

theorem append_prefix_drop : u ++ v <+: text.drop i ↔
    u <+: text.drop i ∧ v <+: text.drop (i + u.length) := by
  rw [← List.drop_drop]
  constructor
  · rintro ⟨rest, hrest⟩
    rw [← hrest, List.append_assoc, List.drop_left]
    exact ⟨List.prefix_append _ _, List.prefix_append _ _⟩
  · rintro ⟨⟨rest, hrest⟩, hv⟩
    rw [← hrest, List.drop_left] at hv
    rw [← hrest]
    exact List.prefix_append_right_inj u |>.2 hv

/-- Steps over words of a language, one after the other, go over a row of such words. -/
theorem reflTransGen_words {R : Nat → Nat → Prop} {L : Language Char}
    (hR : ∀ i j, R i j ↔ ∃ w ∈ L, w <+: text.drop i ∧ j = i + w.length) :
    Relation.ReflTransGen R i j ↔
      ∃ w ∈ KStar.kstar L, w <+: text.drop i ∧ j = i + w.length := by
  constructor
  · intro h
    induction h with
    | refl => exact ⟨[], Language.nil_mem_kstar L, List.nil_prefix, rfl⟩
    | @tail k j _ hstep ih =>
      obtain ⟨u, hu, hthere, rfl⟩ := ih
      obtain ⟨v, hv, hnext, rfl⟩ := (hR _ _).1 hstep
      obtain ⟨words, rfl, hwords⟩ := Language.mem_kstar.1 hu
      refine ⟨words.flatten ++ v, Language.mem_kstar.2 ⟨words ++ [v], by simp, ?_⟩,
        append_prefix_drop.2 ⟨hthere, hnext⟩, by simp [Nat.add_assoc]⟩
      intro w hw
      rcases List.mem_append.1 hw with hw | hw
      · exact hwords w hw
      · rwa [List.mem_singleton.1 hw]
  · rintro ⟨w, hw, hthere, rfl⟩
    obtain ⟨words, rfl, hwords⟩ := Language.mem_kstar.1 hw
    clear hw
    induction words generalizing i with
    | nil => exact .refl
    | cons first rest ih =>
      rw [List.flatten_cons, append_prefix_drop] at hthere
      have hstep : R i (i + first.length) :=
        (hR _ _).2 ⟨first, hwords first (by simp), hthere.1, rfl⟩
      rw [List.flatten_cons, List.length_append, ← Nat.add_assoc]
      exact .head hstep (ih (fun w hw => hwords w (List.mem_cons_of_mem _ hw)) hthere.2)

/-- A pattern without assertions takes a position over the words of its language. -/
theorem takes_iff_language {p : Pattern} (hp : p.isPlain = true) : ∀ {i j : Nat},
    Takes text p i j ↔ ∃ w ∈ p.language, w <+: text.drop i ∧ j = i + w.length := by
  induction p with
  | empty =>
    intro i j
    simp [Takes, language, Language.mem_one]
  | char k =>
    intro i j
    simp only [Takes, language]
    constructor
    · rintro ⟨rfl, c, hc, hk⟩
      refine ⟨[c], ⟨c, rfl, hk⟩, ?_, rfl⟩
      rw [List.drop_eq_getElem?_toList_append, hc]
      exact List.prefix_append _ _
    · rintro ⟨_, ⟨c, rfl, hk⟩, hthere, rfl⟩
      refine ⟨rfl, c, ?_, hk⟩
      obtain ⟨rest, hrest⟩ := hthere
      rw [← List.head?_drop, ← hrest]
      rfl
  | start | stop | boundary => cases hp
  | seq a b iha ihb =>
    intro i j
    obtain ⟨ha, hb⟩ := Bool.and_eq_true_iff.1 hp
    simp only [Takes, language, Language.mem_mul, iha ha, ihb hb]
    constructor
    · rintro ⟨_, ⟨u, hu, hthere, rfl⟩, v, hv, hnext, rfl⟩
      exact ⟨u ++ v, ⟨u, hu, v, hv, rfl⟩, append_prefix_drop.2 ⟨hthere, hnext⟩,
        by simp [Nat.add_assoc]⟩
    · rintro ⟨_, ⟨u, hu, v, hv, rfl⟩, hthere, rfl⟩
      obtain ⟨hfirst, hnext⟩ := append_prefix_drop.1 hthere
      exact ⟨_, ⟨u, hu, hfirst, rfl⟩, v, hv, hnext, by simp [Nat.add_assoc]⟩
  | alt a b iha ihb =>
    intro i j
    obtain ⟨ha, hb⟩ := Bool.and_eq_true_iff.1 hp
    simp only [Takes, language, Language.mem_add, iha ha, ihb hb, or_and_right, exists_or]
  | star a ih => exact reflTransGen_words fun _ _ => ih hp

end

end ClusterScript.Pattern
