import Mathlib.Data.List.DropRight
import Mathlib.Data.String.Basic
import ClusterScript.Session.Completion

/-!
# Completion at a cursor

A cursor stands between two characters: the line is what was typed before it
and the rest. The word before the cursor is the longest end of what was typed
that has the characters of words only (`wordBefore`); candidates stand for
the end of it behind its last separator (`replaced`).

**Answers.** `Session.Answers` is what a completion owes: where the
candidates start, that they continue what they replace, their order, and
which names they are. `HasGlobal` and `HasMember` tell the names by the
tables and classes of a session, not by the lists that completion makes.

**Bytes.** `cut?_eq_some_iff` says at which bytes a text can be cut. The word
is taken to start one byte behind the start of the character before it
(`wordStart_of_append`): behind a character of one byte that is the word, and
`complete_answers`; inside of a wider one nothing can be cut, and
`complete_breaks`.

* `complete_answers_or_breaks`: both, for every line and cursor.
-/
namespace ClusterScript

open Script

namespace Completion

variable {p : Char → Bool} {a b cs : List Char} {c : Char} {byte : Nat}

/-! ## Cutting texts -/

/-- A text can be cut exactly at the bytes that its first characters end at. -/
theorem cut?_eq_some_iff :
    cut? cs byte = some (a, b) ↔ cs = a ++ b ∧ String.utf8Len a = byte := by
  fun_induction cut? cs byte generalizing a b with
  | case1 cs =>
    constructor
    · rintro ⟨⟩
      simp
    · rintro ⟨rfl, h⟩
      rw [String.utf8Len_eq_zero] at h
      simp [h]
  | case2 n =>
    refine iff_of_false nofun ?_
    rintro ⟨h, hwidth⟩
    obtain ⟨rfl, -⟩ := List.append_eq_nil_iff.1 h.symm
    cases hwidth
  | case3 c rest n hfits ih =>
    constructor
    · intro h
      obtain ⟨⟨a', b'⟩, hcut, h⟩ := Option.map_eq_some_iff.1 h
      cases h
      obtain ⟨rfl, hwidth⟩ := ih.1 hcut
      exact ⟨rfl, by rw [String.utf8Len_cons]; omega⟩
    · rintro ⟨h, hwidth⟩
      cases a with
      | nil => cases hwidth
      | cons d a' =>
        obtain ⟨rfl, rfl⟩ := List.cons.inj h
        rw [String.utf8Len_cons] at hwidth
        have hpos := c.utf8Size_pos
        rw [ih.2 ⟨rfl, by omega⟩]
        rfl
  | case4 c rest n hwide =>
    refine iff_of_false nofun ?_
    rintro ⟨h, hwidth⟩
    cases a with
    | nil => cases hwidth
    | cons d a' =>
      obtain ⟨rfl, -⟩ := List.cons.inj h
      rw [String.utf8Len_cons] at hwidth
      omega

theorem cut_append (a b : List Char) : cut (a ++ b) (String.utf8Len a) = .ok (a, b) := by
  rw [cut, cut?_eq_some_iff.2 ⟨rfl, rfl⟩]

/-- A cursor between two characters cuts the line. -/
theorem cut_at_cursor (typed rest : String) :
    cut (typed ++ rest).toList typed.utf8ByteSize = .ok (typed.toList, rest.toList) := by
  rw [String.toList_append, ← String.utf8Len_toList, cut_append]

/-- One byte behind the start of a wider character is inside of it. -/
theorem cut_inside (a b : List Char) (hc : 1 < c.utf8Size) :
    cut (a ++ c :: b) (String.utf8Len a + 1) =
      .error ⟨a ++ c :: b, String.utf8Len a + 1⟩ := by
  have hnone : cut? (a ++ c :: b) (String.utf8Len a + 1) = none := by
    refine Option.eq_none_iff_forall_ne_some.2 fun (front, back) h => ?_
    obtain ⟨heq, hwidth⟩ := cut?_eq_some_iff.1 h
    -- the cut would stand behind `a` and some of the characters from `c` on, or before that
    obtain ⟨more, rfl, hmore⟩ | ⟨more, rfl, -⟩ := List.append_eq_append_iff.1 heq
    · rw [String.utf8Len_append] at hwidth
      cases more with
      | nil => simp at hwidth
      | cons d more =>
        obtain ⟨rfl, -⟩ := List.cons.inj hmore
        rw [String.utf8Len_cons] at hwidth
        omega
    · rw [String.utf8Len_append] at hwidth
      omega
  rw [cut, hnone]

/-! ## Last characters -/

theorem lastAt?_eq_none (h : ∀ c ∈ cs, p c = false) : lastAt? p cs = none := by
  induction cs with
  | nil => rfl
  | cons c rest ih =>
    rw [lastAt?, ih fun d hd => h d (List.mem_cons_of_mem _ hd), h c List.mem_cons_self]
    rfl

theorem lastAt?_append (a : List Char) (hc : p c = true) (hb : ∀ d ∈ b, p d = false) :
    lastAt? p (a ++ c :: b) = some (String.utf8Len a) := by
  induction a with
  | nil => rw [List.nil_append, lastAt?, lastAt?_eq_none hb, if_pos hc, String.utf8Len_nil]
  | cons d a ih => rw [List.cons_append, lastAt?, ih, String.utf8Len_cons, Nat.add_comm]

/-- What stands behind the last character without a property, up to the end. -/
theorem rtakeWhile_append (a : List Char) (hc : p c = false) (hb : ∀ d ∈ b, p d = true) :
    (a ++ c :: b).rtakeWhile p = b := by
  rw [List.rtakeWhile, List.reverse_append, List.reverse_cons, List.append_assoc,
    List.takeWhile_append_of_pos fun d hd => hb d (List.mem_reverse.1 hd), List.singleton_append,
    List.takeWhile_cons_of_neg (by simp [hc]), List.append_nil, List.reverse_reverse]

/-- A text has a property throughout, or there is a last character without it. -/
theorem all_or_last (p : Char → Bool) (cs : List Char) :
    (∀ c ∈ cs, p c = true) ∨
      ∃ a c b, cs = a ++ c :: b ∧ p c = false ∧ ∀ d ∈ b, p d = true := by
  obtain h | ⟨a, c, h⟩ := (cs.rdropWhile p).eq_nil_or_concat
  · exact .inl (List.rdropWhile_eq_nil_iff.1 h)
  · have hlast := List.rdropWhile_last_not p cs (by simp [h])
    simp only [h, List.concat_eq_append, List.getLast_append_singleton] at hlast
    refine .inr ⟨a, c, cs.rtakeWhile p, ?_, by simpa using hlast,
      fun d hd => List.mem_rtakeWhile_imp hd⟩
    rw [← List.singleton_append, ← List.append_assoc, ← List.concat_eq_append, ← h,
      List.rdropWhile_append_rtakeWhile]

/-! ## Words -/

/-- Each border at or below a code point leads into the set or out of it. -/
theorem foldl_borders (n : Nat) (start : Bool) (borders : List Nat) :
    borders.foldl (fun inside b => if b ≤ n then !inside else inside) start =
      (start ^^ borders.countP (fun b => decide (b ≤ n)) % 2 == 1) := by
  induction borders generalizing start with
  | nil => simp
  | cons b rest ih =>
    rw [List.foldl_cons, ih]
    by_cases hb : b ≤ n
    · have hparity (k : Nat) : ((k + 1) % 2 == 1) = !(k % 2 == 1) := by
        obtain h | h := Nat.mod_two_eq_zero_or_one k <;> simp [Nat.add_mod, h]
      rw [if_pos hb, List.countP_cons_of_pos (by simpa using hb), hparity, Bool.not_xor,
        Bool.xor_not]
    · rw [if_neg hb, List.countP_cons_of_neg (by simpa using hb)]

/-- Word characters, with the borders of letters and numbers counted. -/
theorem isWordPart_eq (c : Char) :
    isWordPart c =
      (Text.alphanumeric.toList.countP (fun b => decide (b ≤ c.toNat)) % 2 == 1 ||
        c == '_' || c == '.' || c == ':') := by
  rw [isWordPart, Text.isAlphanumeric, Text.within, ← Array.foldl_toList, foldl_borders,
    Bool.false_xor]

/-- The longest end that has the characters of words only. -/
def wordBefore (typed : List Char) : List Char := typed.rtakeWhile isWordPart

/-- The longest end that has the characters of words only and no separators. -/
def replaced (typed : List Char) : List Char :=
  typed.rtakeWhile fun c => isWordPart c && !isSeparator c

variable {typed word owner member : List Char} {sep : Char}

theorem isWordPart_of_mem (h : c ∈ wordBefore typed) : isWordPart c = true :=
  List.mem_rtakeWhile_imp h

/-- What was typed is the word, or there is a character before the word. -/
theorem wordBefore_cases (typed : List Char) :
    wordBefore typed = typed ∨
      ∃ front c, typed = front ++ c :: wordBefore typed ∧ isWordPart c = false := by
  obtain h | ⟨front, c, word, rfl, hc, hword⟩ := all_or_last isWordPart typed
  · exact .inl (List.rtakeWhile_eq_self_iff.2 h)
  · exact .inr ⟨front, c, by rw [wordBefore, rtakeWhile_append front hc hword], hc⟩

theorem exists_append_wordBefore (typed : List Char) :
    ∃ before, typed = before ++ wordBefore typed :=
  ⟨_, List.rdropWhile_append_rtakeWhile.symm⟩

theorem replaced_of_global (hglobal : ∀ c ∈ wordBefore typed, isSeparator c = false) :
    replaced typed = wordBefore typed := by
  have hname (c) (hc : c ∈ wordBefore typed) : (isWordPart c && !isSeparator c) = true := by
    rw [isWordPart_of_mem hc, hglobal c hc]
    rfl
  obtain hall | ⟨front, c, htyped, hc⟩ := wordBefore_cases typed
  · rw [hall] at hname ⊢
    exact List.rtakeWhile_eq_self_iff.2 hname
  · generalize wordBefore typed = word at htyped hname
    rw [htyped]
    exact rtakeWhile_append front (by rw [hc, Bool.false_and]) hname

theorem replaced_of_member (hword : wordBefore typed = owner ++ sep :: member)
    (hsep : isSeparator sep = true) (hmember : ∀ c ∈ member, isSeparator c = false) :
    replaced typed = member := by
  have hname (c) (hc : c ∈ member) : (isWordPart c && !isSeparator c) = true := by
    rw [isWordPart_of_mem (hword ▸ List.mem_append_right _ (List.mem_cons_of_mem _ hc)),
      hmember c hc]
    rfl
  obtain ⟨before, htyped⟩ := exists_append_wordBefore typed
  rw [htyped, hword, ← List.append_assoc]
  exact rtakeWhile_append _ (by rw [hsep, Bool.not_true, Bool.and_false]) hname

theorem isSeparator_iff : isSeparator c = true ↔ c = '.' ∨ c = ':' := by
  simp [isSeparator]

theorem utf8Size_of_isSeparator (hsep : isSeparator sep = true) : sep.utf8Size = 1 := by
  obtain rfl | rfl := isSeparator_iff.1 hsep <;> rfl

theorem wordStart_of_eq (h : wordBefore typed = typed) : wordStart typed = 0 := by
  have hword (c) (hc : c ∈ typed) : (!isWordPart c) = false := by
    rw [isWordPart_of_mem (h.symm ▸ hc), Bool.not_true]
  rw [wordStart, lastAt?_eq_none hword]

/-- The character before the word is in no word. -/
theorem not_isWordPart_of_append {front : List Char} (h : typed = front ++ c :: wordBefore typed) :
    isWordPart c = false := by
  obtain hall | ⟨front', c', htyped, hc⟩ := wordBefore_cases typed
  · have hlength := congrArg List.length h
    rw [hall, List.length_append, List.length_cons] at hlength
    omega
  · obtain ⟨-, hcs⟩ := List.append_inj' (h.symm.trans htyped) rfl
    obtain ⟨rfl, -⟩ := List.cons.inj hcs
    exact hc

/-- One byte is added, whatever the width of the character before the word. -/
theorem wordStart_of_append {front : List Char} (h : typed = front ++ c :: wordBefore typed) :
    wordStart typed = String.utf8Len front + 1 := by
  have hc := not_isWordPart_of_append h
  have hword (d) (hd : d ∈ wordBefore typed) : (!isWordPart d) = false := by
    rw [isWordPart_of_mem hd, Bool.not_true]
  generalize wordBefore typed = word at h hword
  rw [h, wordStart, lastAt?_append front (by rw [hc, Bool.not_false]) hword]

/-! ## Names -/

theorem mem_textKeys {t : Table} {n : String} :
    n ∈ textKeys t ↔ ∃ v, (.text n, v) ∈ t.entries := by
  rw [textKeys, List.mem_mergeSort, List.mem_filterMap]
  constructor
  · rintro ⟨⟨k, v⟩, hmem, h⟩
    split at h
    next s hk => exact ⟨v, by cases h; cases hk; exact hmem⟩
    next => cases h
  · rintro ⟨v, hmem⟩
    exact ⟨(.text n, v), hmem, rfl⟩

theorem ascending_mergeSort (names : List String) :
    (names.mergeSort fun a b => decide (a ≤ b)).Pairwise (· ≤ ·) := by
  have htrans (a b c : String) (hab : decide (a ≤ b)) (hbc : decide (b ≤ c)) : decide (a ≤ c) :=
    decide_eq_true (String.le_trans (of_decide_eq_true hab) (of_decide_eq_true hbc))
  have htotal (a b : String) : decide (a ≤ b) || decide (b ≤ a) := by
    simpa using String.le_total a b
  exact (List.pairwise_mergeSort htrans htotal names).imp of_decide_eq_true

end Completion

namespace Session

open Completion

variable {s : Session} {typed rest : String} {word owner member : List Char} {sep : Char}
  {n : String}

/-- A global with a text as its name. -/
def HasGlobal (s : Session) (n : String) : Prop :=
  ∃ v, (.text n, v) ∈ (s.tableOf Run.globals).entries

/-- Members of a global: the methods of an instance's class, the texts among a table's keys. -/
inductive HasMember (s : Session) (owner : String) (n : String) : Prop
  | method {i : Instance} {c : Class} {m : Method}
      (howner : (s.tableOf Run.globals).get (.text owner) = .instance i)
      (hclass : s.world.registry.classes[i.cls]? = some c) (hm : m ∈ c.methods) (hn : m.name = n)
  | key {id : Nat} {v : Value}
      (howner : (s.tableOf Run.globals).get (.text owner) = .table id)
      (hentry : (.text n, v) ∈ (s.tableOf id).entries)

theorem mem_globalNames : n ∈ s.globalNames ↔ s.HasGlobal n := mem_textKeys

theorem mem_memberNames {owner : String} : n ∈ s.memberNames owner ↔ s.HasMember owner n := by
  rw [memberNames]
  split
  case h_1 i howner =>
    rw [List.mem_mergeSort]
    constructor
    · intro h
      cases hclass : s.world.registry.classes[i.cls]? with
      | none => simp [hclass] at h
      | some c =>
        rw [hclass, Option.map_some, Option.getD_some] at h
        obtain ⟨m, hm, hn⟩ := List.mem_map.1 h
        exact .method howner hclass hm hn
    · rintro (⟨howner', hclass, hm, hn⟩ | ⟨howner', -⟩)
      · cases howner.symm.trans howner'
        rw [hclass, Option.map_some, Option.getD_some]
        exact List.mem_map.2 ⟨_, hm, hn⟩
      · cases howner.symm.trans howner'
  case h_2 id howner =>
    rw [mem_textKeys]
    constructor
    · rintro ⟨v, hentry⟩
      exact .key howner hentry
    · rintro (⟨howner', -⟩ | ⟨howner', hentry⟩)
      · cases howner.symm.trans howner'
      · cases howner.symm.trans howner'
        exact ⟨_, hentry⟩
  case h_3 hinstance htable =>
    refine iff_of_false List.not_mem_nil ?_
    rintro (⟨howner, -⟩ | ⟨howner, -⟩)
    · exact hinstance _ howner
    · exact htable _ howner

theorem ascending_globalNames (s : Session) : s.globalNames.Pairwise (· ≤ ·) :=
  ascending_mergeSort _

theorem ascending_memberNames (s : Session) (owner : String) :
    (s.memberNames owner).Pairwise (· ≤ ·) := by
  rw [memberNames]
  split
  · exact ascending_mergeSort _
  · exact ascending_mergeSort _
  · exact .nil

/-! ## Candidates -/

theorem candidates_of_global (s : Session) (hword : ∀ c ∈ word, isSeparator c = false) :
    s.candidates word = .ok (0, s.globalNames.filter fun n => word.isPrefixOf n.toList) := by
  rw [candidates, lastAt?_eq_none hword]
  rfl

/-- The separators are of one byte, so the texts around the last of them can be cut off. -/
theorem candidates_of_member (s : Session) (owner : List Char) (hsep : isSeparator sep = true)
    (hmember : ∀ c ∈ member, isSeparator c = false) :
    s.candidates (owner ++ sep :: member) =
      .ok (String.utf8Len owner + 1,
        (if owner.any isSeparator then [] else s.memberNames (String.ofList owner)).filter
          fun n => member.isPrefixOf n.toList) := by
  have hmid : cut (owner ++ sep :: member) (String.utf8Len owner + 1) =
      .ok (owner ++ [sep], member) := by
    have h := cut_append (owner ++ [sep]) member
    rwa [List.append_assoc, List.singleton_append, String.utf8Len_append, String.utf8Len_cons,
      String.utf8Len_nil, utf8Size_of_isSeparator hsep] at h
  rw [candidates, lastAt?_append owner hsep hmember]
  simp only [cut_append, hmid]
  rfl

/-! ## Answers -/

/-- What a completion owes at a cursor behind `typed`. -/
structure Answers (s : Session) (typed : String) (start : Nat) (names : List String) : Prop where
  /-- The candidates start between two characters, and what is replaced ends at the cursor. -/
  starts : ∃ kept : String,
    typed = kept ++ String.ofList (replaced typed.toList) ∧ start = kept.utf8ByteSize
  continued : ∀ n ∈ names, replaced typed.toList <+: n.toList
  ascending : names.Pairwise (· ≤ ·)
  nothing : wordBefore typed.toList = [] → names = []
  global : wordBefore typed.toList ≠ [] →
    (∀ c ∈ wordBefore typed.toList, isSeparator c = false) →
    ∀ n, n ∈ names ↔ s.HasGlobal n ∧ wordBefore typed.toList <+: n.toList
  member : ∀ owner sep member, wordBefore typed.toList = owner ++ sep :: member →
    isSeparator sep = true → (∀ c ∈ owner ++ member, isSeparator c = false) →
    ∀ n, n ∈ names ↔ s.HasMember (String.ofList owner) n ∧ member <+: n.toList
  several : 1 < (wordBefore typed.toList).countP isSeparator → names = []

theorem starts_of_append {front : List Char} (h : typed.toList = front ++ replaced typed.toList) :
    ∃ kept : String, typed = kept ++ String.ofList (replaced typed.toList) ∧
      String.utf8Len front = kept.utf8ByteSize :=
  ⟨String.ofList front, by rw [← String.ofList_append, ← h, String.ofList_toList],
    (String.utf8ByteSize_ofList front).symm⟩

theorem answers_of_nothing (s : Session) (hword : wordBefore typed.toList = []) :
    s.Answers typed typed.utf8ByteSize [] where
  starts := by
    have hreplaced : replaced typed.toList = [] := by
      rw [replaced_of_global (by simp [hword]), hword]
    rw [← String.utf8Len_toList]
    exact starts_of_append (by rw [hreplaced, List.append_nil])
  continued := nofun
  ascending := .nil
  nothing _ := rfl
  global hne := absurd hword hne
  member owner sep member h := by simp [hword] at h
  several _ := rfl

theorem answers_of_global (s : Session) {before : List Char}
    (htyped : typed.toList = before ++ wordBefore typed.toList)
    (hne : wordBefore typed.toList ≠ [])
    (hglobal : ∀ c ∈ wordBefore typed.toList, isSeparator c = false) :
    s.Answers typed (String.utf8Len before)
      (s.globalNames.filter fun n => (wordBefore typed.toList).isPrefixOf n.toList) where
  starts := starts_of_append (by rwa [replaced_of_global hglobal])
  continued n hn := by
    rw [replaced_of_global hglobal]
    exact List.isPrefixOf_iff_prefix.1 (List.mem_filter.1 hn).2
  ascending := (ascending_globalNames s).filter _
  nothing h := absurd h hne
  global _ _ n := by rw [List.mem_filter, mem_globalNames, List.isPrefixOf_iff_prefix]
  member owner sep member hword hsep := by
    have h := hglobal sep (by simp [hword])
    simp [h] at hsep
  several h := by
    rw [List.countP_eq_zero.2 fun c hc => by simp [hglobal c hc]] at h
    omega

theorem answers_of_member (s : Session) {before : List Char}
    (htyped : typed.toList = before ++ wordBefore typed.toList)
    (hword : wordBefore typed.toList = owner ++ sep :: member)
    (hsep : isSeparator sep = true) (hmember : ∀ c ∈ member, isSeparator c = false) :
    s.Answers typed (String.utf8Len before + (String.utf8Len owner + 1))
      ((if owner.any isSeparator then [] else s.memberNames (String.ofList owner)).filter
        fun n => member.isPrefixOf n.toList) where
  starts := by
    have hfront : String.utf8Len before + (String.utf8Len owner + 1) =
        String.utf8Len (before ++ (owner ++ [sep])) := by
      simp [utf8Size_of_isSeparator hsep]
    rw [hfront]
    refine starts_of_append ?_
    rw [replaced_of_member hword hsep hmember, htyped, hword]
    simp
  continued n hn := by
    rw [replaced_of_member hword hsep hmember]
    exact List.isPrefixOf_iff_prefix.1 (List.mem_filter.1 hn).2
  ascending := by
    refine List.Pairwise.filter _ ?_
    split
    · exact .nil
    · exact ascending_memberNames s _
  nothing h := by simp [h] at hword
  global _ hglobal := by
    have h := hglobal sep (by simp [hword])
    simp [h] at hsep
  member owner' sep' member' hword' hsep' hnone n := by
    -- the last separator of the word is the only one
    have hmember' : member' = member := by
      rw [← replaced_of_member hword hsep hmember,
        replaced_of_member hword' hsep' fun c hc => hnone c (List.mem_append_right _ hc)]
    subst hmember'
    obtain ⟨rfl, -⟩ := List.append_inj' (hword'.symm.trans hword) rfl
    have howner : owner'.any isSeparator = false :=
      List.any_eq_false.2 fun c hc => by simp [hnone c (List.mem_append_left _ hc)]
    rw [howner, if_neg Bool.false_ne_true, List.mem_filter, mem_memberNames,
      List.isPrefixOf_iff_prefix]
  several h := by
    have hnone : member.countP isSeparator = 0 :=
      List.countP_eq_zero.2 fun c hc => by simp [hmember c hc]
    rw [hword, List.countP_append, List.countP_cons_of_pos hsep, hnone] at h
    have hpos : 0 < owner.countP isSeparator := by omega
    obtain ⟨c, hc, hcsep⟩ := List.countP_pos_iff.1 hpos
    rw [List.any_eq_true.2 ⟨c, hc, hcsep⟩, if_pos rfl, List.filter_nil]

/-- The word is found where it is taken to start at its first byte. -/
theorem complete_of_start (s : Session) (rest : String) (before : List Char)
    (htyped : typed.toList = before ++ wordBefore typed.toList)
    (hstart : wordStart typed.toList = String.utf8Len before) :
    s.complete (typed ++ rest) typed.utf8ByteSize =
      if (wordBefore typed.toList).isEmpty then .ok (typed.utf8ByteSize, [])
      else (s.candidates (wordBefore typed.toList)).map
        fun found => (String.utf8Len before + found.1, found.2) := by
  have hcut : cut typed.toList (String.utf8Len before) = .ok (before, wordBefore typed.toList) := by
    conv_lhs => rw [htyped]
    exact cut_append _ _
  rw [complete, cut_at_cursor]
  simp only [bind, Except.bind, hstart, hcut]
  split
  · rfl
  · cases s.candidates (wordBefore typed.toList) <;> rfl

/-- Where the word is found, its completion is answered. -/
theorem complete_answers (s : Session) (rest : String) (before : List Char)
    (htyped : typed.toList = before ++ wordBefore typed.toList)
    (hstart : wordStart typed.toList = String.utf8Len before) :
    ∃ start names, s.complete (typed ++ rest) typed.utf8ByteSize = .ok (start, names) ∧
      s.Answers typed start names := by
  rw [complete_of_start s rest before htyped hstart]
  by_cases hne : wordBefore typed.toList = []
  · exact ⟨_, _, by rw [hne]; rfl, answers_of_nothing s hne⟩
  rw [if_neg (by simpa using hne)]
  obtain hglobal | ⟨owner, sep, member, hword, hsep, hmember⟩ :=
    all_or_last (fun c => !isSeparator c) (wordBefore typed.toList)
  · have hglobal (c) (hc : c ∈ wordBefore typed.toList) : isSeparator c = false := by
      simpa using hglobal c hc
    exact ⟨_, _, by rw [candidates_of_global s hglobal]; rfl,
      answers_of_global s htyped hne hglobal⟩
  · have hsep : isSeparator sep = true := by simpa using hsep
    have hmember (c) (hc : c ∈ member) : isSeparator c = false := by simpa using hmember c hc
    exact ⟨_, _, by rw [hword, candidates_of_member s owner hsep hmember]; rfl,
      answers_of_member s htyped hword hsep hmember⟩

/-- A wider character before the word is cut, and the process ends. -/
theorem complete_breaks (s : Session) (typed rest : String) (front : List Char) (c : Char)
    (htyped : typed.toList = front ++ c :: wordBefore typed.toList) (hwide : 1 < c.utf8Size) :
    s.complete (typed ++ rest) typed.utf8ByteSize =
      .error ⟨typed.toList, String.utf8Len front + 1⟩ := by
  have hcut : cut typed.toList (String.utf8Len front + 1) =
      .error ⟨typed.toList, String.utf8Len front + 1⟩ := by
    rw [htyped]
    exact cut_inside _ _ hwide
  rw [complete, cut_at_cursor]
  simp only [bind, Except.bind, wordStart_of_append htyped, hcut]

/-- **Completion answers, except behind wide characters.** At every cursor between two characters
the word before it is completed as it should be if nothing or a character of one byte stands before
the word. A wider character there is cut after its first byte, whatever the session is. -/
theorem complete_answers_or_breaks (s : Session) (typed rest : String) :
    ((∀ front c, typed.toList = front ++ c :: wordBefore typed.toList → c.utf8Size = 1) →
      ∃ start names, s.complete (typed ++ rest) typed.utf8ByteSize = .ok (start, names) ∧
        s.Answers typed start names) ∧
    ∀ front c, typed.toList = front ++ c :: wordBefore typed.toList → 1 < c.utf8Size →
      s.complete (typed ++ rest) typed.utf8ByteSize =
        .error ⟨typed.toList, String.utf8Len front + 1⟩ := by
  constructor
  · intro hnarrow
    obtain hall | ⟨front, c, htyped, -⟩ := wordBefore_cases typed.toList
    · exact complete_answers s rest [] hall.symm (wordStart_of_eq hall)
    · have hstart : wordStart typed.toList = String.utf8Len (front ++ [c]) := by
        rw [wordStart_of_append htyped, String.utf8Len_append, String.utf8Len_cons,
          String.utf8Len_nil, hnarrow front c htyped]
      exact complete_answers s rest (front ++ [c]) (by rwa [List.append_assoc]) hstart
  · intro front c htyped hwide
    exact complete_breaks s typed rest front c htyped hwide

/-- Behind a quotation mark of two bytes the word would start at the second of them. -/
theorem complete_breaks_behind_quotation_mark :
    Session.complete ⟨Engine.installed default⟩ "«po" 4 = .error ⟨"«po".toList, 1⟩ := by
  have hmark : isWordPart '«' = false := by
    rw [isWordPart_eq]
    decide +kernel
  have hp : isWordPart 'p' = true := by
    rw [isWordPart_eq]
    decide +kernel
  have ho : isWordPart 'o' = true := by
    rw [isWordPart_eq]
    decide +kernel
  have hchars : "«po".toList = ['«', 'p', 'o'] := by decide +kernel
  have hword : wordBefore ['«', 'p', 'o'] = ['p', 'o'] :=
    rtakeWhile_append [] hmark (List.forall_mem_cons.2 ⟨hp, List.forall_mem_singleton.2 ho⟩)
  have h := complete_breaks ⟨Engine.installed default⟩ "«po" "" [] '«'
    (by rw [hchars, hword]; rfl) (by decide)
  rwa [String.append_empty] at h

end Session

end ClusterScript
