import ClusterScript.Script.Value

/-!
# The entries of tables

A table filled key by key keeps its entries in the order of filling. Keys
1, 2, ... then make up its sequence, and texts as keys leave it without one.

* `set_fresh`: a new key goes to the end.
* `sequence_numbered`: values at 1, 2, ... are the sequence.
* `le_length`, `length_le`: where a table may end.
* `length_named`: a table of names has length 0.
-/
namespace ClusterScript.Script

theorem Value.ofNat_inj {m n : Nat} (hm : m < 0x8000000000000000) (hn : n < 0x8000000000000000)
    (h : Value.ofNat m = Value.ofNat n) : m = n := by
  have h : Int64.ofNat m = Int64.ofNat n := Value.int.inj h
  have := congrArg Int64.toInt h
  rw [Int64.toInt_ofNat_of_lt hm, Int64.toInt_ofNat_of_lt hn] at this
  omega

namespace Table

section

variable {key value : Value} {entries : List (Value × Value)} {t : Table}

theorem insert_fresh :
    ∀ {entries : List (Value × Value)}, (∀ e ∈ entries, e.1 ≠ key) →
      insert key value entries = entries ++ [(key, value)]
  | [], _ => rfl
  | (k, v) :: rest, h => by
    rw [insert, if_neg (h (k, v) (by simp)),
      insert_fresh fun e he => h e (List.mem_cons_of_mem _ he), List.cons_append]

theorem set_of_ne_nil (hv : value ≠ .nil) :
    t.set key value = { t with entries := insert key value t.entries } := by
  unfold set
  split
  · exact absurd rfl hv
  · rfl

/-- A value at a new key becomes the last entry. -/
theorem set_fresh (hv : value ≠ .nil) (h : ∀ e ∈ t.entries, e.1 ≠ key) :
    t.set key value = { t with entries := t.entries ++ [(key, value)] } := by
  rw [set_of_ne_nil hv, insert_fresh h]

theorem lookup_insert_self :
    ∀ entries : List (Value × Value), (insert key value entries).lookup key = some value
  | [] => by simp [insert]
  | (k, v) :: rest => by
    by_cases hk : k = key
    · simp [insert, hk]
    · have hbeq : (key == k) = false := beq_eq_false_iff_ne.2 (Ne.symm hk)
      rw [insert, if_neg hk, List.lookup_cons, hbeq, lookup_insert_self rest]

theorem lookup_insert_ne {other : Value} (h : other ≠ key) :
    ∀ entries : List (Value × Value),
      (insert key value entries).lookup other = entries.lookup other
  | [] => by simp [insert, h]
  | (k, v) :: rest => by
    by_cases hk : k = key
    · have hbeq : (other == key) = false := beq_eq_false_iff_ne.2 h
      simp [insert, hk, List.lookup_cons, hbeq]
    · rw [insert, if_neg hk, List.lookup_cons, List.lookup_cons, lookup_insert_ne h rest]

theorem get_set_self (hv : value ≠ .nil) : (t.set key value).get key = value := by
  rw [set_of_ne_nil hv, get, lookup_insert_self, Option.getD_some]

theorem get_set_ne {other : Value} (hv : value ≠ .nil) (h : other ≠ key) :
    (t.set key value).get other = t.get other := by
  rw [set_of_ne_nil hv, get, lookup_insert_ne h, get]

theorem lookup_absent :
    ∀ {entries : List (Value × Value)}, (∀ e ∈ entries, e.1 ≠ key) → entries.lookup key = none
  | [], _ => rfl
  | (k, v) :: rest, h => by
    have hk : (key == k) = false := beq_eq_false_iff_ne.2 (h (k, v) (by simp)).symm
    rw [List.lookup_cons, hk, lookup_absent fun e he => h e (List.mem_cons_of_mem _ he)]

theorem get_absent (h : ∀ e ∈ t.entries, e.1 ≠ key) : t.get key = .nil := by
  rw [get, lookup_absent h, Option.getD_none]

end

/-! ## Sequences -/

/-- What stands at `start`, `start + 1`, ... -/
def numbered {α : Type} (start : Nat) : List α → List (Value × α)
  | [] => []
  | v :: rest => (.ofNat start, v) :: numbered (start + 1) rest

section

variable {t : Table} {values : List Value} {start : Nat}

theorem numbered_append {α : Type} : ∀ {us vs : List α} {start : Nat},
    numbered start (us ++ vs) = numbered start us ++ numbered (start + us.length) vs
  | [], vs, start => by simp [numbered]
  | u :: us, vs, start => by
    rw [List.cons_append, numbered, numbered_append, numbered, List.cons_append, List.length_cons]
    congr 3
    omega

@[simp] theorem length_numbered : ∀ {values : List Value} {start : Nat},
    (numbered start values).length = values.length
  | [], _ => rfl
  | v :: rest, start => by rw [numbered, List.length_cons, length_numbered, List.length_cons]

theorem mem_numbered {α : Type} {values : List α} {start : Nat} {e : Value × α}
    (h : e ∈ numbered start values) :
    ∃ i, start ≤ i ∧ i < start + values.length ∧ e.1 = .ofNat i := by
  induction values generalizing start with
  | nil => simp [numbered] at h
  | cons v rest ih =>
    rw [List.length_cons]
    rcases List.mem_cons.1 h with h | h
    · exact ⟨start, by omega, by omega, by rw [h]⟩
    · obtain ⟨i, hlow, hhigh, hi⟩ := ih h
      exact ⟨i, by omega, by omega, hi⟩

theorem snd_mem_of_mem_numbered {α : Type} {e : Value × α} :
    ∀ {values : List α} {start : Nat}, e ∈ numbered start values → e.2 ∈ values
  | v :: rest, start, h => by
    rcases List.mem_cons.1 h with h | h
    · simp [h]
    · exact List.mem_cons_of_mem _ (snd_mem_of_mem_numbered h)

theorem exists_append_of_mem_numbered {α : Type} {e : Value × α} :
    ∀ {values : List α} {start : Nat}, e ∈ numbered start values →
      ∃ before v after, values = before ++ v :: after ∧ e = (.ofNat (start + before.length), v)
  | v :: rest, start, h => by
    rcases List.mem_cons.1 h with h | h
    · exact ⟨[], v, rest, rfl, h⟩
    · obtain ⟨before, u, after, rfl, he⟩ := exists_append_of_mem_numbered h
      refine ⟨v :: before, u, after, rfl, ?_⟩
      rw [he, List.length_cons, Nat.add_assoc, Nat.add_comm 1]

/-- No place outside of the numbered ones is among them. -/
theorem numbered_ne {α : Type} {values : List α} {start n : Nat}
    (hend : start + values.length ≤ 0x8000000000000000) (hn : n < 0x8000000000000000)
    (hout : n < start ∨ start + values.length ≤ n) :
    ∀ e ∈ numbered start values, e.1 ≠ .ofNat n := by
  intro e he heq
  obtain ⟨i, hlow, hhigh, hi⟩ := mem_numbered he
  have := Value.ofNat_inj (by omega) hn (hi.symm.trans heq)
  omega

theorem get_numbered {us vs : List Value} {v : Value}
    (h : t.entries = numbered 1 (us ++ v :: vs))
    (hlen : (us ++ v :: vs).length < 0x8000000000000000) : t.get (.ofNat (us.length + 1)) = v := by
  rw [List.length_append, List.length_cons] at hlen
  have hfresh : ∀ e ∈ numbered 1 us, e.1 ≠ .ofNat (us.length + 1) :=
    numbered_ne (by omega) (by omega) (Or.inr (by omega))
  have hkey : Value.ofNat (1 + us.length) = Value.ofNat (us.length + 1) := by rw [Nat.add_comm]
  rw [get, h, numbered_append, List.lookup_append, lookup_absent hfresh, numbered, List.lookup_cons,
    hkey]
  simp

theorem valuesFrom_numbered : ∀ (vs us : List Value),
    t.entries = numbered 1 (us ++ vs) → (us ++ vs).length < 0x8000000000000000 →
      (∀ v ∈ vs, v ≠ .nil) → t.valuesFrom vs.length us.length = vs
  | [], us, _, _, _ => by simp [valuesFrom]
  | v :: vs, us, h, hlen, hnil => by
    have hget := get_numbered h hlen
    have ih := valuesFrom_numbered vs (us ++ [v])
      (by simpa using h) (by simpa using hlen) fun u hu => hnil u (List.mem_cons_of_mem _ hu)
    rw [List.length_append, List.length_singleton] at ih
    rw [List.length_cons, valuesFrom, hget, ih]
    split
    · exact absurd rfl (hnil .nil (by simp))
    · rfl

/-- Values at 1, 2, ... make up the sequence. -/
theorem sequence_numbered (h : t.entries = numbered 1 values)
    (hlen : values.length < 0x8000000000000000) (hnil : ∀ v ∈ values, v ≠ .nil) :
    t.sequence = values := by
  rw [sequence, h, length_numbered]
  exact valuesFrom_numbered values [] h hlen hnil

theorem map_zipIdx_eq_numbered : ∀ (values : List Value) (start : Nat),
    (values.zipIdx start).map (fun p => (Value.ofNat (p.2 + 1), p.1)) = numbered (start + 1) values
  | [], _ => rfl
  | v :: rest, start => by
    rw [List.zipIdx_cons, List.map_cons, map_zipIdx_eq_numbered rest, numbered]

theorem entries_ofList (hnil : ∀ v ∈ values, v ≠ .nil) :
    (ofList values).entries = numbered 1 values := by
  rw [ofList, map_zipIdx_eq_numbered values 0, List.filter_eq_self]
  intro e he
  have hne := hnil e.2 (snd_mem_of_mem_numbered he)
  cases h : e.2 with
  | nil => exact absurd h hne
  | _ => rfl

theorem sequence_ofList (hlen : values.length < 0x8000000000000000)
    (hnil : ∀ v ∈ values, v ≠ .nil) : (ofList values).sequence = values :=
  sequence_numbered (entries_ofList hnil) hlen hnil

end

/-! ## Ends -/

section

variable {t : Table} {n : Nat}

theorem inSequence_ofNat {i : Nat} (hpos : 1 ≤ i) (hi : i < 0x8000000000000000) (hle : i ≤ n) :
    inSequence n (.ofNat i) = true := by
  have hkey : (Int64.ofNat i).toInt = i := Int64.toInt_ofNat_of_lt (by omega)
  simp only [Value.ofNat, inSequence, hkey, Bool.and_eq_true, decide_eq_true_eq]
  omega

/-- A key within a sequence is one of its places. -/
theorem exists_place_of_inSequence {key : Value} (h : inSequence n key = true) :
    ∃ i, 1 ≤ i ∧ i < 0x8000000000000000 ∧ i ≤ n ∧ key = .ofNat i := by
  cases key with
  | int i =>
    simp only [inSequence, Bool.and_eq_true, decide_eq_true_eq] at h
    have hkey : Value.int i = .ofNat i.toInt.toNat := by
      rw [Value.ofNat, ← Int64.ofInt_eq_ofNat, Int.toNat_of_nonneg (by omega), Int64.ofInt_toInt]
    have hbound := Int64.toInt_lt i
    exact ⟨i.toInt.toNat, by omega, by omega, by omega, hkey⟩
  | _ => cases h

theorem le_length_valuesFrom : ∀ {k fuel i : Nat},
    (∀ j, i < j → j ≤ i + k → t.get (.ofNat j) ≠ .nil) → k ≤ fuel →
      k ≤ (t.valuesFrom fuel i).length
  | 0, _, _, _, _ => Nat.zero_le _
  | k + 1, 0, _, _, hfuel => by omega
  | k + 1, fuel + 1, i, h, hfuel => by
    have hrest : k ≤ (t.valuesFrom fuel (i + 1)).length :=
      le_length_valuesFrom (fun j hlow hhigh => h j (by omega) (by omega)) (by omega)
    rw [valuesFrom]
    split
    · next hnil => exact absurd hnil (h (i + 1) (by omega) (by omega))
    · rw [List.length_cons]
      omega

theorem length_valuesFrom_le : ∀ {k fuel i : Nat}, t.get (.ofNat (i + k + 1)) = .nil →
    (t.valuesFrom fuel i).length ≤ k
  | _, 0, _, _ => Nat.zero_le _
  | 0, fuel + 1, i, h => by
    rw [valuesFrom, show t.get (.ofNat (i + 1)) = .nil from h]
    exact Nat.le_refl 0
  | k + 1, fuel + 1, i, h => by
    have hrest : (t.valuesFrom fuel (i + 1)).length ≤ k :=
      length_valuesFrom_le (by rwa [show i + 1 + k + 1 = i + (k + 1) + 1 by omega])
    rw [valuesFrom]
    split
    · exact Nat.zero_le _
    · rw [List.length_cons]
      omega

/-- A table reaches as far as there are values without a gap, wherever it is taken to end. -/
theorem le_length (h : ∀ i, 1 ≤ i → i ≤ n → t.get (.ofNat i) ≠ .nil) (hn : n ≤ t.entries.length) :
    n ≤ t.length := by
  by_cases hstart : n ≤ t.start
  · exact Nat.le_trans hstart (Nat.le_add_right _ _)
  · have hrest : n - t.start ≤ (t.valuesFrom t.entries.length t.start).length :=
      le_length_valuesFrom (fun j hlow hhigh => h j (by omega) (by omega)) (by omega)
    rw [length]
    omega

theorem halve_takes : ∀ {fuel low high : Nat}, low = 0 ∨ t.takes low = true →
    t.halve fuel low high = 0 ∨ t.takes (t.halve fuel low high) = true
  | 0, _, _, h => h
  | fuel + 1, low, high, h => by
    rw [halve]
    split
    · exact h
    · split
      · next htakes => exact halve_takes (.inr htakes)
      · exact halve_takes h

/-- The end among the places that there is room for is one with a value, or there is none. -/
theorem start_takes (t : Table) : t.start = 0 ∨ t.takes t.start = true := by
  rw [start]
  split
  · assumption
  · split
    · next htakes => exact .inr htakes.2
    · exact halve_takes (.inl rfl)

/-- A table without values from some place on does not reach there. -/
theorem length_le (hn : n + 1 < 0x8000000000000000)
    (h : ∀ i, n < i → i < 0x8000000000000000 → t.get (.ofNat i) = .nil) : t.length ≤ n := by
  have hstart : t.start ≤ n := by
    rcases t.start_takes with hzero | htakes
    · omega
    · simp only [takes, Bool.and_eq_true, decide_eq_true_eq] at htakes
      refine Nat.le_of_not_lt fun hgt => ?_
      rw [h t.start (by omega) htakes.1] at htakes
      cases htakes.2
  have hend : t.get (.ofNat (t.start + (n - t.start) + 1)) = .nil := by
    rw [show t.start + (n - t.start) + 1 = n + 1 by omega]
    exact h (n + 1) (by omega) hn
  have hrest : (t.valuesFrom t.entries.length t.start).length ≤ n - t.start :=
    length_valuesFrom_le hend
  rw [length]
  omega

/-- Without keys but places that are reached there are no other keys. -/
theorem hasOtherKeys_of_places (h : ∀ e ∈ t.entries,
    ∃ i, 1 ≤ i ∧ i < 0x8000000000000000 ∧ i ≤ t.length ∧ e.1 = .ofNat i) :
    t.hasOtherKeys = false := by
  rw [hasOtherKeys, List.any_eq_false]
  intro e he
  obtain ⟨i, hpos, hi, hle, hkey⟩ := h e he
  rw [hkey, inSequence_ofNat hpos hi hle]
  exact Bool.false_ne_true

/-- The table of a list has a value at each place. -/
theorem get_ofList_ne_nil {values : List Value} (hlen : values.length < 0x8000000000000000)
    (hnil : ∀ v ∈ values, v ≠ .nil) {i : Nat} (hpos : 1 ≤ i) (hi : i ≤ values.length) :
    (ofList values).get (.ofNat i) ≠ .nil := by
  have hsplit : values.take (i - 1) ++ values[i - 1] :: values.drop (i - 1 + 1) = values := by simp
  have hplace : (ofList values).get (.ofNat ((values.take (i - 1)).length + 1)) = values[i - 1] :=
    get_numbered (by rw [hsplit]; exact entries_ofList hnil) (by rwa [hsplit])
  rw [List.length_take_of_le (by omega), Nat.sub_add_cancel hpos] at hplace
  rw [hplace]
  exact hnil _ (List.getElem_mem _)

theorem hasOtherKeys_ofList {values : List Value} (hlen : values.length < 0x8000000000000000)
    (hnil : ∀ v ∈ values, v ≠ .nil) : (ofList values).hasOtherKeys = false := by
  have hcount : (ofList values).entries.length = values.length := by
    rw [entries_ofList hnil, length_numbered]
  have hreach : values.length ≤ (ofList values).length :=
    le_length (fun _ hpos hi => get_ofList_ne_nil hlen hnil hpos hi) (Nat.le_of_eq hcount.symm)
  refine hasOtherKeys_of_places fun e he => ?_
  rw [entries_ofList hnil] at he
  obtain ⟨i, hlow, hhigh, hi⟩ := mem_numbered he
  exact ⟨i, hlow, by omega, by omega, hi⟩

/-- A table with texts for keys has no sequence. -/
theorem length_named (h : ∀ e ∈ t.entries, ∃ name, e.1 = .text name) : t.length = 0 := by
  refine Nat.le_zero.1 (length_le (by decide) fun i _ _ => get_absent fun e he heq => ?_)
  obtain ⟨name, hname⟩ := h e he
  rw [hname] at heq
  cases heq

end

end Table

end ClusterScript.Script
