import ClusterScript.Proofs.Script.Tables
import Mathlib.Data.List.Perm.Subperm
import Mathlib.Data.List.Nodup
import Mathlib.Data.List.Range

/-!
# Tables without their order

A table has each key once, so what it holds at a key does not depend on the
order of its entries, and neither does its sequence.

* `Table.Distinct`: each key is there once.
* `Table.NoHoles`: with a place of a sequence all places before it are there.
* `get_perm`, `sequence_perm`: the order does not count.
* `NoHoles.mem_sequence`: without holes all places belong to the sequence.
* `exists_numbered`: a table of places without holes is, but for the order,
  the table of a list.
-/
namespace ClusterScript.Script

/-- Natural numbers from 1 on, each once and with all below it, are those up to their count. -/
theorem perm_range'_of_downward {places : List Nat} (hnodup : places.Nodup)
    (hpos : ∀ i ∈ places, 1 ≤ i) (hdown : ∀ i ∈ places, ∀ j, 1 ≤ j → j ≤ i → j ∈ places) :
    places.Perm (List.range' 1 places.length) := by
  have hle : ∀ i ∈ places, i ≤ places.length := by
    intro i hi
    have hsub : List.range' 1 i ⊆ places := by
      intro j hj
      obtain ⟨hlow, hhigh⟩ := List.mem_range'_1.1 hj
      exact hdown i hi j hlow (by omega)
    simpa using (List.subperm_of_subset List.nodup_range' hsub).length_le
  have hsub : places ⊆ List.range' 1 places.length := by
    intro i hi
    have hi1 := hpos i hi
    have hi2 := hle i hi
    exact List.mem_range'_1.2 ⟨hi1, by omega⟩
  exact (List.subperm_of_subset hnodup hsub).perm_of_length_le (by simp)

namespace Table

/-- Each key is there once. -/
def Distinct (t : Table) : Prop := (t.entries.map Prod.fst).Nodup

/-- With a place of a sequence all places before it are there. -/
def NoHoles (t : Table) : Prop :=
  ∀ n < 0x8000000000000000, Value.ofNat n ∈ t.entries.map Prod.fst →
    ∀ m, 1 ≤ m → m ≤ n → Value.ofNat m ∈ t.entries.map Prod.fst

/-- A key that is a place of a sequence. -/
def IsPlace (key : Value) : Prop :=
  ∃ n, 1 ≤ n ∧ n < 0x8000000000000000 ∧ key = .ofNat n

section

variable {t t' : Table} {key v : Value}

theorem Distinct.perm (h : t.Distinct) (hperm : t.entries.Perm t'.entries) : t'.Distinct :=
  (hperm.map Prod.fst).nodup_iff.1 h

/-- What is held at a key is the value of its one entry. -/
theorem get_of_mem (h : t.Distinct) (hmem : (key, v) ∈ t.entries) : t.get key = v := by
  obtain ⟨before, after, hentries⟩ := List.append_of_mem hmem
  have hfresh : ∀ e ∈ before, e.1 ≠ key := by
    intro e he heq
    rw [Distinct, hentries, List.map_append, List.map_cons] at h
    exact (List.nodup_append.1 h).2.2 e.1 (List.mem_map_of_mem he) key (by simp) heq
  rw [get, hentries, List.lookup_append, lookup_absent hfresh]
  simp

theorem mem_of_get (h : t.get key ≠ .nil) : (key, t.get key) ∈ t.entries := by
  rw [get] at h ⊢
  cases hfound : t.entries.lookup key with
  | none => rw [hfound] at h; exact absurd rfl h
  | some v =>
    obtain ⟨before, after, hentries, -⟩ := List.lookup_eq_some_iff.1 hfound
    rw [hentries]
    simp

theorem get_perm (h : t.Distinct) (hperm : t.entries.Perm t'.entries) : t'.get key = t.get key := by
  by_cases hkey : key ∈ t.entries.map Prod.fst
  · obtain ⟨⟨k, v⟩, hmem, rfl⟩ := List.mem_map.1 hkey
    rw [get_of_mem h hmem, get_of_mem (h.perm hperm) (hperm.subset hmem)]
  · have habsent : ∀ {s : Table}, key ∉ s.entries.map Prod.fst → s.get key = .nil :=
      fun hnot => get_absent fun e he heq => hnot (heq ▸ List.mem_map_of_mem he)
    rw [habsent hkey, habsent fun hmem => hkey ((hperm.map Prod.fst).symm.subset hmem)]

theorem valuesFrom_congr (h : ∀ key, t'.get key = t.get key) :
    ∀ fuel i, t'.valuesFrom fuel i = t.valuesFrom fuel i
  | 0, _ => rfl
  | fuel + 1, i => by
    rw [valuesFrom, valuesFrom, h]
    split
    · rfl
    · rw [valuesFrom_congr h fuel]

theorem sequence_perm (h : t.Distinct) (hperm : t.entries.Perm t'.entries) :
    t'.sequence = t.sequence := by
  rw [sequence, sequence, hperm.length_eq, valuesFrom_congr fun key => get_perm h hperm]

/-! ## Places -/

theorem getElem?_valuesFrom : ∀ {fuel start i : Nat},
    (t.valuesFrom fuel start)[i]? = some v → v = t.get (.ofNat (start + i + 1))
  | fuel + 1, start, i, hfound => by
    rw [valuesFrom] at hfound
    split at hfound
    · simp at hfound
    · cases i with
      | zero => exact (Option.some.inj hfound).symm
      | succ i =>
        rw [List.getElem?_cons_succ] at hfound
        rw [getElem?_valuesFrom hfound]
        congr 2
        omega

theorem mem_valuesFrom : ∀ {fuel start : Nat}, v ∈ t.valuesFrom fuel start →
    v ≠ .nil ∧ ∃ i, v = t.get (.ofNat i)
  | fuel + 1, start, hmem => by
    rw [valuesFrom] at hmem
    split at hmem
    · cases hmem
    · next hnil =>
      rcases List.mem_cons.1 hmem with rfl | hmem
      · exact ⟨hnil, start + 1, rfl⟩
      · exact mem_valuesFrom hmem

/-- The values of the sequence are values of entries. -/
theorem exists_key_of_mem_sequence (h : v ∈ t.sequence) : ∃ key, (key, v) ∈ t.entries := by
  obtain ⟨hnil, i, rfl⟩ := mem_valuesFrom h
  exact ⟨_, mem_of_get hnil⟩

theorem mem_valuesFrom_of_lt : ∀ {fuel start i : Nat}, i < (t.valuesFrom fuel start).length →
    t.get (.ofNat (start + i + 1)) ∈ t.valuesFrom fuel start := by
  intro fuel start i hlt
  rw [← getElem?_valuesFrom (List.getElem?_eq_getElem hlt)]
  exact List.getElem_mem hlt

/-- Without holes there are values at all places up to one that is there, and as many entries. -/
theorem NoHoles.present (h : t.Distinct) (hholes : t.NoHoles) (hnil : ∀ e ∈ t.entries, e.2 ≠ .nil)
    {n : Nat} (hn : n < 0x8000000000000000) (hmem : Value.ofNat n ∈ t.entries.map Prod.fst) :
    (∀ i, 1 ≤ i → i ≤ n → t.get (.ofNat i) ≠ .nil) ∧ n ≤ t.entries.length := by
  refine ⟨fun i hpos hi => ?_, ?_⟩
  · obtain ⟨⟨k, v⟩, he, hkey⟩ := List.mem_map.1 (hholes n hn hmem i hpos hi)
    rw [← hkey, get_of_mem h he]
    exact hnil _ he
  · have hnodup : ((List.range' 1 n).map Value.ofNat).Nodup := by
      refine List.Nodup.map_on (fun i hi j hj heq => ?_) List.nodup_range'
      have hi := List.mem_range'_1.1 hi
      have hj := List.mem_range'_1.1 hj
      exact Value.ofNat_inj (by omega) (by omega) heq
    have hsub : (List.range' 1 n).map Value.ofNat ⊆ t.entries.map Prod.fst := by
      intro key hkey
      obtain ⟨i, hi, rfl⟩ := List.mem_map.1 hkey
      have hi := List.mem_range'_1.1 hi
      exact hholes n hn hmem i (by omega) (by omega)
    simpa using (List.subperm_of_subset hnodup hsub).length_le

/-- Without holes, what is held at a place is in the sequence. -/
theorem NoHoles.mem_sequence (h : t.Distinct) (hholes : t.NoHoles)
    (hnil : ∀ e ∈ t.entries, e.2 ≠ .nil) {n : Nat} (hpos : 1 ≤ n) (hn : n < 0x8000000000000000)
    (hmem : (Value.ofNat n, v) ∈ t.entries) : v ∈ t.sequence := by
  obtain ⟨hpresent, hle⟩ := hholes.present h hnil hn (List.mem_map_of_mem hmem)
  have hlength : n ≤ t.sequence.length :=
    le_length_valuesFrom (fun j hlow hhigh => hpresent j (by omega) (by omega)) hle
  have hplace : t.get (.ofNat (0 + (n - 1) + 1)) ∈ t.sequence :=
    mem_valuesFrom_of_lt (Nat.lt_of_lt_of_le (by omega) hlength)
  rwa [show 0 + (n - 1) + 1 = n by omega, get_of_mem h hmem] at hplace

/-- The entries are the keys, each with what is held there. -/
theorem entries_eq_map_get (h : t.Distinct) :
    t.entries = (t.entries.map Prod.fst).map fun key => (key, t.get key) := by
  rw [List.map_map]
  refine ((List.map_congr_left fun e he => ?_).trans (List.map_id _)).symm
  rw [Function.comp_apply, get_of_mem h he]
  rfl

theorem numbered_map_range' (f : Nat → Value) : ∀ start n,
    numbered start ((List.range' start n).map f) =
      (List.range' start n).map fun i => (Value.ofNat i, f i)
  | _, 0 => rfl
  | start, n + 1 => by
    rw [List.range'_succ, List.map_cons, numbered, numbered_map_range' f (start + 1) n,
      List.map_cons]

theorem exists_places : ∀ {keys : List Value}, (∀ key ∈ keys, IsPlace key) →
    ∃ places : List Nat, keys = places.map Value.ofNat ∧
      ∀ i ∈ places, 1 ≤ i ∧ i < 0x8000000000000000
  | [], _ => ⟨[], rfl, by simp⟩
  | key :: rest, h => by
    obtain ⟨⟨n, hlow, hhigh, hkey⟩, hrest⟩ := List.forall_mem_cons.1 h
    obtain ⟨places, hplaces, hbounds⟩ := exists_places hrest
    exact ⟨n :: places, by rw [hkey, hplaces, List.map_cons],
      List.forall_mem_cons.2 ⟨⟨hlow, hhigh⟩, hbounds⟩⟩

/-- A table of places without holes is, but for the order, the table of a list. -/
theorem exists_numbered (h : t.Distinct) (hholes : t.NoHoles)
    (hplaces : ∀ e ∈ t.entries, IsPlace e.1) :
    ∃ values, t.entries.Perm (numbered 1 values) ∧ values.length < 0x8000000000000000 := by
  obtain ⟨places, hkeys, hbounds⟩ := exists_places (List.forall_mem_map.2 hplaces)
  have hnodup : places.Nodup := by
    rw [Distinct, hkeys] at h
    exact h.of_map
  have hmem : ∀ m < 0x8000000000000000, Value.ofNat m ∈ t.entries.map Prod.fst → m ∈ places := by
    intro m hm hkey
    rw [hkeys] at hkey
    obtain ⟨i, hi, heq⟩ := List.mem_map.1 hkey
    exact Value.ofNat_inj (hbounds i hi).2 hm heq ▸ hi
  have hperm := perm_range'_of_downward hnodup (fun i hi => (hbounds i hi).1) fun i hi j hj hji =>
    hmem j (by have := (hbounds i hi).2; omega) (hholes i (hbounds i hi).2
      (hkeys ▸ List.mem_map_of_mem hi) j hj hji)
  refine ⟨(List.range' 1 places.length).map fun i => t.get (.ofNat i), ?_, ?_⟩
  · rw [numbered_map_range', entries_eq_map_get h, hkeys, List.map_map]
    exact hperm.map _
  · rw [List.length_map, List.length_range']
    -- the last of the places is one of them
    by_contra hlong
    have hlast : 0x8000000000000000 ∈ List.range' 1 places.length :=
      List.mem_range'_1.2 ⟨by omega, by omega⟩
    exact absurd (hbounds _ (hperm.symm.subset hlast)).2 (by omega)

theorem exists_key_of_mem {values : List Value} : ∀ {start : Nat}, v ∈ values →
    ∃ key, (key, v) ∈ numbered start values := by
  induction values with
  | nil => simp
  | cons u rest ih =>
    intro start hmem
    rcases List.mem_cons.1 hmem with rfl | hmem
    · exact ⟨.ofNat start, List.mem_cons_self⟩
    · obtain ⟨key, hkey⟩ : ∃ key, (key, v) ∈ numbered (start + 1) rest := ih hmem
      exact ⟨key, List.mem_cons_of_mem _ hkey⟩

/-- A table with the entries of a list's, in any order, has the list as its sequence and no other
keys. -/
theorem sequence_of_numbered {values : List Value} (h : t.Distinct)
    (hperm : t.entries.Perm (numbered 1 values)) (hlen : values.length < 0x8000000000000000)
    (hnil : ∀ v ∈ values, v ≠ .nil) : t.sequence = values ∧ t.hasOtherKeys = false := by
  have hplaces := hperm
  rw [← entries_ofList hnil] at hperm
  refine ⟨(sequence_perm h hperm).symm.trans (sequence_ofList hlen hnil),
    hasOtherKeys_of_places fun e he => ?_⟩
  have hreach : values.length ≤ t.length := by
    refine le_length (fun i hpos hi => ?_) (by rw [hplaces.length_eq, length_numbered])
    rw [← get_perm h hperm]
    exact get_ofList_ne_nil hlen hnil hpos hi
  obtain ⟨i, hlow, hhigh, hi⟩ := mem_numbered (hplaces.subset he)
  exact ⟨i, hlow, by omega, by omega, hi⟩

end

end Table

end ClusterScript.Script
