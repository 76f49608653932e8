import ClusterScript.Cluster.Decoding
import ClusterScript.Proofs.Script.Collected
import ClusterScript.Proofs.Script.OperandNesting
import ClusterScript.Proofs.Script.ParameterTables
import ClusterScript.Proofs.Script.SettingUp
import ClusterScript.Proofs.Script.Snapshots

/-!
# Operands in tables

An operand of a match is a leaf, or a table of operands. Nesting counts for
nothing: a match compares with the texts of the leaves, from left to right, as
if they had been handed over one by one. Only a table with other keys than
those of its sequence is refused, wherever it stands.

* `Table.Holds`: a table of values at 1, 2, ..., and of other entries.
* `Operand`: trees of tables, with their leaves and the other entries.
* `Value.IsTree.exists_operand`: a value that is a finite tree is one of them.
* `Value.Unfit`: leaves that are no operands.
* `operands_of_leaves`: flattening trees is flattening their leaves.
* `nested_operands_recorded`: what matches on the keys of a collector record.
-/
namespace ClusterScript.Script

open Selector (Kind Expression)

/-! ## Tables of operands -/

namespace Table

/-- A table of values at 1, 2, ... that has some other entries, none of them at such a place. -/
structure Holds (t : Table) (items : List Value) (others : List (Value × Value)) : Prop where
  entries : t.entries.Perm (numbered 1 items ++ others)
  distinct : t.Distinct
  size : items.length + 1 < 0x8000000000000000
  present : ∀ v ∈ items, v ≠ .nil
  others : ∀ e ∈ others, ¬ IsPlace e.1

section

variable {t : Table} {v : Value} {items : List Value} {others : List (Value × Value)}

theorem mem_numbered_of_getElem? : ∀ {values : List Value} {start i : Nat},
    values[i]? = some v → (Value.ofNat (start + i), v) ∈ numbered start values
  | u :: rest, start, 0, h => by
    cases h
    exact List.mem_cons_self
  | u :: rest, start, i + 1, h => by
    have hplace : start + (i + 1) = start + 1 + i := by omega
    rw [hplace]
    exact List.mem_cons_of_mem _ (mem_numbered_of_getElem? h)

/-- Values one after the other, and none behind them. -/
theorem valuesFrom_of_get : ∀ {values : List Value} {fuel i : Nat},
    (∀ j v, values[j]? = some v → t.get (.ofNat (i + j + 1)) = v) → (∀ v ∈ values, v ≠ .nil) →
    t.get (.ofNat (i + values.length + 1)) = .nil → values.length ≤ fuel →
      t.valuesFrom fuel i = values
  | [], 0, _, _, _, _, _ => rfl
  | [], fuel + 1, i, _, _, hend, _ => by
    rw [valuesFrom, show t.get (.ofNat (i + 1)) = .nil from hend]
  | v :: rest, fuel + 1, i, hget, hnil, hend, hfuel => by
    rw [List.length_cons] at hend hfuel
    have hv : t.get (.ofNat (i + 1)) = v := hget 0 v rfl
    have hrest : t.valuesFrom fuel (i + 1) = rest := by
      refine valuesFrom_of_get (fun j u hj => ?_) (fun u hu => hnil u (List.mem_cons_of_mem _ hu))
        ?_ (by omega)
      · rw [← hget (j + 1) u hj]
        congr 2
        omega
      · rw [← hend]
        congr 2
        omega
    rw [valuesFrom, hv, hrest]
    have hne := hnil v List.mem_cons_self
    cases v with
    | nil => exact absurd rfl hne
    | _ => rfl

theorem isPlace_ofNat {n : Nat} (hpos : 1 ≤ n) (hn : n < 0x8000000000000000) :
    IsPlace (.ofNat n) := ⟨n, hpos, hn, rfl⟩

theorem Holds.get_behind (h : t.Holds items others) : t.get (.ofNat (items.length + 1)) = .nil := by
  have hsize := h.size
  refine get_absent fun e he heq => ?_
  rcases List.mem_append.1 (h.entries.subset he) with hnumbered | hother
  · exact numbered_ne (by omega) hsize (Or.inr (by omega)) e hnumbered heq
  · exact h.others e hother (heq ▸ isPlace_ofNat (by omega) hsize)

theorem Holds.sequence (h : t.Holds items others) : t.sequence = items := by
  have hlen := h.entries.length_eq
  rw [List.length_append, length_numbered] at hlen
  refine valuesFrom_of_get (fun j v hj => ?_) h.present ?_ (by omega)
  · refine get_of_mem h.distinct (h.entries.symm.subset (List.mem_append_left _ ?_))
    have hmem : (Value.ofNat (1 + j), v) ∈ numbered 1 items := mem_numbered_of_getElem? hj
    rwa [show 1 + j = 0 + j + 1 by omega] at hmem
  · rw [Nat.zero_add]
    exact h.get_behind

/-- The length is the number of values, wherever the engine looks for the end. -/
theorem Holds.length (h : t.Holds items others) : t.length = items.length := by
  have hsize := h.size
  have hcount := h.entries.length_eq
  rw [List.length_append, length_numbered] at hcount
  refine Nat.le_antisymm (length_le hsize fun i hlow hi => ?_) (le_length (fun i hpos hi => ?_) ?_)
  · refine get_absent fun e he heq => ?_
    rcases List.mem_append.1 (h.entries.subset he) with hnumbered | hother
    · exact numbered_ne (by omega) hi (Or.inr (by omega)) e hnumbered heq
    · exact h.others e hother (heq ▸ isPlace_ofNat (by omega) hi)
  · have hplace : (Value.ofNat (1 + (i - 1)), items[i - 1]) ∈ numbered 1 items :=
      mem_numbered_of_getElem? (List.getElem?_eq_getElem (by omega))
    rw [show 1 + (i - 1) = i by omega] at hplace
    rw [get_of_mem h.distinct (h.entries.symm.subset (List.mem_append_left _ hplace))]
    exact h.present _ (List.getElem_mem _)
  · omega

/-- The keys outside of its sequence are those of the other entries. -/
theorem Holds.hasOtherKeys_iff (h : t.Holds items others) :
    t.hasOtherKeys = true ↔ others ≠ [] := by
  rw [hasOtherKeys, List.any_eq_true, h.length]
  constructor
  · rintro ⟨e, he, hout⟩ hnone
    have hmem := h.entries.subset he
    rw [hnone, List.append_nil] at hmem
    obtain ⟨i, hlow, hhigh, hi⟩ := mem_numbered hmem
    have hsize := h.size
    rw [hi, inSequence_ofNat hlow (by omega) (by omega)] at hout
    cases hout
  · intro hsome
    obtain ⟨e, he⟩ := List.exists_mem_of_ne_nil others hsome
    refine ⟨e, h.entries.symm.subset (List.mem_append_right _ he), ?_⟩
    rw [Bool.not_eq_true']
    by_contra hin
    rw [Bool.not_eq_false] at hin
    obtain ⟨i, hpos, hi, -, hkey⟩ := exists_place_of_inSequence hin
    exact h.others e he ⟨i, hpos, hi, hkey⟩

/-- A table without holes holds what is at its places, and the entries at other keys. -/
theorem exists_holds (hdistinct : t.Distinct) (hholes : t.NoHoles)
    (hsize : t.entries.length + 1 < 0x8000000000000000) (hnil : ∀ e ∈ t.entries, e.2 ≠ .nil) :
    ∃ items others, t.Holds items others := by
  classical
  let places : Table := { t with entries := t.entries.filter fun e => decide (IsPlace e.1) }
  let others := t.entries.filter fun e => !decide (IsPlace e.1)
  have hplace : ∀ n < 0x8000000000000000, 1 ≤ n → (Value.ofNat n ∈ places.entries.map Prod.fst ↔
      Value.ofNat n ∈ t.entries.map Prod.fst) := by
    intro n hn hpos
    have hkey := isPlace_ofNat hpos hn
    simp only [places, List.mem_map, List.mem_filter, decide_eq_true_eq]
    constructor
    · rintro ⟨e, ⟨he, -⟩, heq⟩
      exact ⟨e, he, heq⟩
    · rintro ⟨e, he, heq⟩
      exact ⟨e, ⟨he, heq ▸ hkey⟩, heq⟩
  have hplaces : places.NoHoles := by
    intro n hn hmem m hm hle
    refine (hplace m (by omega) hm).2 (hholes n hn ?_ m hm hle)
    exact (hplace n hn (by omega)).1 hmem
  have hsub : (places.entries.map Prod.fst).Sublist (t.entries.map Prod.fst) :=
    List.filter_sublist.map Prod.fst
  obtain ⟨items, hperm, hlen⟩ := exists_numbered (hdistinct.sublist hsub) hplaces
    fun e he => of_decide_eq_true (List.mem_filter.1 he).2
  have hentries : t.entries.Perm (numbered 1 items ++ others) :=
    (List.filter_append_perm _ _).symm.trans (hperm.append_right others)
  refine ⟨items, others, hentries, hdistinct, ?_, ?_, ?_⟩
  · have hcount := hentries.length_eq
    rw [List.length_append, length_numbered] at hcount
    omega
  · intro v hv
    obtain ⟨key, hkey⟩ : ∃ key, (key, v) ∈ numbered 1 items := exists_key_of_mem hv
    exact hnil _ (hentries.symm.subset (List.mem_append_left _ hkey))
  · intro e he
    simpa using (List.mem_filter.1 he).2

end

end Table

/-! ## Trees -/

/-- An operand: a leaf, or a table on the heap with operands at 1, 2, ... and other entries. -/
inductive Operand
  | leaf (v : Value)
  | table (id : Nat) (items : List Operand) (others : List (Value × Value))

namespace Operand

/-- What a script hands over. -/
def value : Operand → Value
  | leaf v => v
  | table id _ _ => .table id

mutual

/-- The leaves, from left to right. -/
def leaves : Operand → List Value
  | leaf v => [v]
  | table _ items _ => leavesOf items

def leavesOf : List Operand → List Value
  | [] => []
  | o :: rest => o.leaves ++ leavesOf rest

end

mutual

/-- The entries of its tables that are in no sequence. -/
def others : Operand → List (Value × Value)
  | leaf _ => []
  | table _ items others => others ++ othersOf items

def othersOf : List Operand → List (Value × Value)
  | [] => []
  | o :: rest => o.others ++ othersOf rest

end

mutual

/-- The tables on the heap are as the tree tells. -/
def Stands (tables : Array Table) : Operand → Prop
  | leaf v => ∀ id, v ≠ .table id
  | table id items others =>
    (tableOf tables id).Holds (items.map value) others ∧ AllStand tables items

def AllStand (tables : Array Table) : List Operand → Prop
  | [] => True
  | o :: rest => o.Stands tables ∧ AllStand tables rest

end

end Operand

/-- A value that is a finite tree of tables without holes, over any leaves. -/
inductive Value.IsTree (tables : Array Table) : Value → Prop
  | leaf {v : Value} : (∀ id, v ≠ .table id) → IsTree tables v
  | table {id : Nat} : (tableOf tables id).Distinct → (tableOf tables id).NoHoles →
      (tableOf tables id).entries.length + 1 < 0x8000000000000000 →
      (∀ e ∈ (tableOf tables id).entries, e.2 ≠ .nil) →
      (∀ v ∈ (tableOf tables id).sequence, IsTree tables v) → IsTree tables (.table id)

section

variable {tables : Array Table} {v : Value} {values xs ys : List Value} {texts : List String}
variable {r : Except Fault (List String)} {f : Fault}

theorem exists_operands (h : ∀ v ∈ values, ∃ o : Operand, o.value = v ∧ o.Stands tables) :
    ∃ os : List Operand, os.map Operand.value = values ∧ Operand.AllStand tables os := by
  induction values with
  | nil => exact ⟨[], rfl, trivial⟩
  | cons v rest ih =>
    obtain ⟨⟨o, ho, hstands⟩, hrest⟩ := List.forall_mem_cons.1 h
    obtain ⟨os, hos, hall⟩ := ih hrest
    exact ⟨o :: os, by rw [List.map_cons, ho, hos], hstands, hall⟩

/-- Finite trees of tables are operands that stand on the heap. -/
theorem Value.IsTree.exists_operand (h : v.IsTree tables) :
    ∃ o : Operand, o.value = v ∧ o.Stands tables := by
  induction h with
  | leaf hv => exact ⟨.leaf _, rfl, hv⟩
  | @table id hdistinct hholes hsize hnil _ ih =>
    obtain ⟨items, others, hholds⟩ := Table.exists_holds hdistinct hholes hsize hnil
    obtain ⟨os, hos, hall⟩ := exists_operands ih
    rw [hholds.sequence] at hos
    exact ⟨.table id os others, rfl, hos ▸ hholds, hall⟩

/-! ## Flattening trees -/

theorem flattens_append (h : Flattens tables (xs ++ ys) r) :
    (∃ texts more, Flattens tables xs (.ok texts) ∧ Flattens tables ys more ∧
      r = more.map (texts ++ ·)) ∨
      ∃ f, Flattens tables xs (.error f) ∧ r = .error f := by
  induction xs generalizing r with
  | nil => exact .inl ⟨[], r, .nil, h, by cases r <;> rfl⟩
  | cons v xs ih =>
    obtain ⟨first, r₁, hone, hrest, rfl⟩ | ⟨f, hone, rfl⟩ := Flattens.cons_cases h
    · obtain ⟨texts, more, hxs, hys, rfl⟩ | ⟨f, hxs, rfl⟩ := ih hrest
      · refine .inl ⟨first ++ texts, more, hone.cons hxs, hys, ?_⟩
        cases more <;> simp [Except.map]
      · exact .inr ⟨f, hone.cons hxs, rfl⟩
    · exact .inr ⟨f, hone.cons_error, rfl⟩

/-- Values flatten as their leaves do, or end with a fault where other entries are in the way. -/
def FlattenAs (tables : Array Table) (values leaves : List Value)
    (others : List (Value × Value)) : Prop :=
  (others = [] → ∀ r, Flattens tables leaves r → Flattens tables values r) ∧
    (others ≠ [] → ∃ f, Flattens tables values (.error f))

theorem FlattenAs.cons {rest leaves more : List Value} {others others' : List (Value × Value)}
    (hone : FlattenAs tables [v] leaves others) (hleaves : ∃ r, Flattens tables leaves r)
    (hrest : FlattenAs tables rest more others') :
    FlattenAs tables (v :: rest) (leaves ++ more) (others ++ others') := by
  constructor
  · intro hnone r h
    obtain ⟨hothers, hothers'⟩ := List.append_eq_nil_iff.1 hnone
    obtain ⟨texts, r₁, hfirst, hmore, rfl⟩ | ⟨f, hfirst, rfl⟩ := flattens_append h
    · exact (hone.1 hothers _ hfirst).cons (hrest.1 hothers' _ hmore)
    · exact (hone.1 hothers _ hfirst).cons_error
  · intro hsome
    by_cases hothers : others = []
    · obtain ⟨f, hf⟩ := hrest.2 fun h => hsome (by rw [hothers, h, List.append_nil])
      obtain ⟨r, hr⟩ := hleaves
      have hfirst := hone.1 hothers r hr
      cases r with
      | ok texts => exact ⟨f, hfirst.cons hf⟩
      | error f' => exact ⟨f', hfirst.cons_error⟩
    · obtain ⟨f, hf⟩ := hone.2 hothers
      exact ⟨f, hf.cons_error⟩

theorem FlattenAs.table {id : Nat} {items leaves : List Value}
    {others inner : List (Value × Value)} (hholds : (tableOf tables id).Holds items others)
    (hitems : FlattenAs tables items leaves inner) :
    FlattenAs tables [.table id] leaves (others ++ inner) := by
  have hkeys := hholds.hasOtherKeys_iff
  by_cases hothers : others = []
  · have hplain : (tableOf tables id).hasOtherKeys = false := by
      rw [← Bool.not_eq_true, hkeys]
      exact not_not_intro hothers
    rw [hothers, List.nil_append]
    rw [← hholds.sequence] at hitems
    exact ⟨fun hnone r h => .one_table hplain (hitems.1 hnone r h),
      fun hsome => (hitems.2 hsome).imp fun _ h => .one_table hplain h⟩
  · exact ⟨fun hnone => absurd (List.append_eq_nil_iff.1 hnone).1 hothers,
      fun _ => ⟨_, .named (hkeys.2 hothers)⟩⟩

/-- Leaves come to an end. -/
theorem exists_flattens_leaves (h : ∀ v ∈ values, ∀ id, v ≠ .table id) :
    ∃ r, Flattens tables values r := by
  induction values with
  | nil => exact ⟨_, .nil⟩
  | cons v rest ih =>
    obtain ⟨hv, hrest⟩ := List.forall_mem_cons.1 h
    obtain ⟨r, hr⟩ := ih hrest
    cases htext : operandText v with
    | ok s => exact ⟨_, .scalar hv htext hr⟩
    | error stop =>
      cases stop with
      | fault f => exact ⟨_, .refused hv htext⟩
      | tooDeep => exact absurd htext operandText_ne_tooDeep

namespace Operand

mutual

theorem leaves_not_table : ∀ {o : Operand}, o.Stands tables → ∀ v ∈ o.leaves, ∀ id, v ≠ .table id
  | leaf v, h => by
    intro u hu
    rw [leaves, List.mem_singleton] at hu
    rw [Stands] at h
    exact hu ▸ h
  | table _ items _, h => by
    rw [leaves]
    rw [Stands] at h
    exact leavesOf_not_table h.2

theorem leavesOf_not_table : ∀ {os : List Operand}, AllStand tables os →
    ∀ v ∈ leavesOf os, ∀ id, v ≠ .table id
  | [], _ => by simp [leavesOf]
  | o :: rest, h => by
    rw [AllStand] at h
    rw [leavesOf]
    exact List.forall_mem_append.2 ⟨leaves_not_table h.1, leavesOf_not_table h.2⟩

end

mutual

theorem flattenAs : ∀ {o : Operand}, o.Stands tables →
    FlattenAs tables [o.value] o.leaves o.others
  | leaf v, h => by
    rw [leaves, others]
    exact ⟨fun _ _ h => h, fun h => absurd rfl h⟩
  | table id items others', h => by
    rw [Stands] at h
    rw [value, leaves, others]
    exact .table h.1 (flattenAllAs h.2)

theorem flattenAllAs : ∀ {os : List Operand}, AllStand tables os →
    FlattenAs tables (os.map value) (leavesOf os) (othersOf os)
  | [], _ => by
    rw [leavesOf, othersOf]
    exact ⟨fun _ _ h => h, fun h => absurd rfl h⟩
  | o :: rest, h => by
    rw [AllStand] at h
    rw [List.map_cons, leavesOf, othersOf]
    exact .cons (flattenAs h.1) (exists_flattens_leaves (leaves_not_table h.1)) (flattenAllAs h.2)

end

end Operand

/-! ## Leaves -/

/-- A leaf that is no operand: it is no string, number or truth value, a string that is no text,
or blank. -/
inductive Value.Unfit : Value → Prop
  | other {v : Value} : ¬ v.IsScalar → Unfit v
  | notText {bytes : List UInt8} {m : Text.Malformed} :
      Text.decode bytes = .error m → Unfit (.bytes bytes)
  | blank {v : Value} {s : String} :
      scalarText v = .ok (some s) → Text.blank s = true → Unfit v

theorem decode_of_scalarText_error {f : Fault} (h : scalarText v = .error f) :
    ∃ bytes m, v = .bytes bytes ∧ Text.decode bytes = .error m := by
  cases v with
  | bytes bytes =>
    cases hdecode : Text.decode bytes with
    | ok s => simp [scalarText, Value.hostText, hdecode] at h
    | error m => exact ⟨bytes, m, rfl, hdecode⟩
  | _ => cases h

theorem not_unfit {s : String} (h : scalarText v = .ok (some s)) (hblank : Text.blank s = false) :
    ¬ v.Unfit := by
  intro hunfit
  cases hunfit with
  | other hscalar => exact hscalar (isScalar_of_scalarText h)
  | notText hdecode => simp [scalarText, Value.hostText, hdecode] at h
  | blank htext hblank' =>
    cases h.symm.trans htext
    cases hblank.symm.trans hblank'

/-- A leaf is compared by its text, or refused if it is unfit. -/
theorem operandText_cases (v : Value) :
    (∃ s, operandText v = .ok s ∧ scalarText v = .ok (some s) ∧ ¬ v.Unfit) ∨
      ∃ f, operandText v = .error (.fault f) ∧ v.Unfit := by
  unfold operandText
  cases htext : scalarText v with
  | error f =>
    obtain ⟨bytes, m, rfl, hdecode⟩ := decode_of_scalarText_error htext
    exact .inr ⟨f, rfl, .notText hdecode⟩
  | ok text =>
    cases text with
    | none =>
      refine .inr ⟨_, rfl, .other fun hscalar => ?_⟩
      cases v with
      | bytes bytes => cases hdecode : Text.decode bytes <;>
          simp [scalarText, Value.hostText, hdecode] at htext
      | text _ | int _ | float _ | bool _ => cases htext
      | _ => exact hscalar
    | some s =>
      cases hblank : Text.blank s with
      | false => exact .inl ⟨s, by simp [hblank], rfl, not_unfit htext hblank⟩
      | true => exact .inr ⟨.refused (.blankOperand s), by simp [hblank], .blank htext hblank⟩

theorem flattens_leaf_iff (hv : ∀ id, v ≠ .table id) :
    Flattens tables [v] (.ok texts) ↔
      ∃ s, ¬ v.Unfit ∧ scalarText v = .ok (some s) ∧ texts = [s] := by
  constructor
  · intro h
    obtain ⟨s, htext, hscalar, hfit⟩ | ⟨f, htext, -⟩ := operandText_cases v
    · cases h.unique (.scalar hv htext .nil)
      exact ⟨s, hfit, hscalar, rfl⟩
    · cases h.unique (.refused hv htext)
  · rintro ⟨s, hfit, hscalar, rfl⟩
    obtain ⟨s', htext, hscalar', -⟩ | ⟨f, -, hunfit⟩ := operandText_cases v
    · cases hscalar.symm.trans hscalar'
      exact .scalar hv htext .nil
    · exact absurd hunfit hfit

/-- Leaves flatten to their texts, unless one of them is unfit. -/
theorem flattens_leaves_iff (h : ∀ v ∈ values, ∀ id, v ≠ .table id) :
    Flattens tables values (.ok texts) ↔
      (∀ v ∈ values, ¬ v.Unfit) ∧ values.map scalarText = texts.map fun s => .ok (some s) := by
  induction values generalizing texts with
  | nil =>
    constructor
    · intro hflattens
      cases hflattens.unique .nil
      exact ⟨by simp, rfl⟩
    · rintro ⟨-, htexts⟩
      rw [List.map_nil, eq_comm, List.map_eq_nil_iff] at htexts
      exact htexts ▸ .nil
  | cons v rest ih =>
    obtain ⟨hv, hrest⟩ := List.forall_mem_cons.1 h
    rw [flattens_cons_ok, List.forall_mem_cons, List.map_cons]
    constructor
    · rintro ⟨first, more, hone, hmore, rfl⟩
      obtain ⟨s, hfit, hscalar, rfl⟩ := (flattens_leaf_iff hv).1 hone
      obtain ⟨hfits, htexts⟩ := (ih hrest).1 hmore
      exact ⟨⟨hfit, hfits⟩, by rw [hscalar, htexts]; rfl⟩
    · rintro ⟨⟨hfit, hfits⟩, htexts⟩
      cases texts with
      | nil => cases htexts
      | cons s more =>
        obtain ⟨hscalar, hmore⟩ := List.cons.inj htexts
        exact ⟨[s], more, (flattens_leaf_iff hv).2 ⟨s, hfit, hscalar, rfl⟩,
          (ih hrest).2 ⟨hfits, hmore⟩, rfl⟩

/-- Leaves that all fit have texts. -/
theorem exists_texts (h : ∀ v ∈ values, ¬ v.Unfit) :
    ∃ texts : List String, values.map scalarText = texts.map fun s => .ok (some s) := by
  induction values with
  | nil => exact ⟨[], rfl⟩
  | cons v rest ih =>
    obtain ⟨hv, hrest⟩ := List.forall_mem_cons.1 h
    obtain ⟨texts, htexts⟩ := ih hrest
    obtain ⟨s, -, hs, -⟩ | ⟨_, -, hunfit⟩ := operandText_cases v
    · exact ⟨s :: texts, by rw [List.map_cons, List.map_cons, hs, htexts]⟩
    · exact absurd hunfit hv

namespace Operand

variable {os : List Operand}

theorem exists_flattens (h : AllStand tables os) : ∃ r, Flattens tables (os.map value) r := by
  obtain ⟨hplain, hothers⟩ := flattenAllAs h
  by_cases hnone : othersOf os = []
  · obtain ⟨r, hr⟩ := exists_flattens_leaves (leavesOf_not_table h)
    exact ⟨r, hplain hnone r hr⟩
  · obtain ⟨f, hf⟩ := hothers hnone
    exact ⟨_, hf⟩

/-- Trees flatten to the texts of their leaves, unless a leaf is unfit or an entry is in no
sequence. -/
theorem flattens_iff (h : AllStand tables os) :
    Flattens tables (os.map value) (.ok texts) ↔
      othersOf os = [] ∧ (∀ v ∈ leavesOf os, ¬ v.Unfit) ∧
        (leavesOf os).map scalarText = texts.map fun s => .ok (some s) := by
  obtain ⟨hplain, hothers⟩ := flattenAllAs h
  rw [← flattens_leaves_iff (leavesOf_not_table h)]
  constructor
  · intro hflattens
    have hnone : othersOf os = [] := by
      by_contra hsome
      obtain ⟨f, hf⟩ := hothers hsome
      cases hflattens.unique hf
    obtain ⟨r, hr⟩ := exists_flattens_leaves (leavesOf_not_table h)
    cases hflattens.unique (hplain hnone r hr)
    exact ⟨hnone, hr⟩
  · rintro ⟨hnone, hleaves⟩
    exact hplain hnone _ hleaves

/-- Flattening trees is flattening their leaves, also where that fails. -/
theorem operands_of_leaves (h : AllStand tables os) (hnone : othersOf os = []) :
    operands tables (os.map value) = operands tables (leavesOf os) := by
  obtain ⟨r, hr⟩ := exists_flattens_leaves (leavesOf_not_table h)
  rw [operands_eq_iff.2 hr, operands_eq_iff.2 ((flattenAllAs h).1 hnone r hr)]

end Operand

end

/-! ## What matches record -/

/-- There is an expression of a key that is not blank, with as many values as its operator needs. -/
theorem exists_make?_iff {name : String} {operator : Selector.Operator} {values : List String} :
    (∃ e, Expression.make? name operator values = .ok e) ↔
      Text.blank name = false ∧ (operator = .present ↔ values = []) := by
  constructor
  · rintro ⟨e, h⟩
    obtain ⟨rfl, rfl, rfl⟩ := Expression.make?_eq_ok.1 h
    exact ⟨e.key_not_blank, e.values_fit⟩
  · rintro ⟨hblank, hfit⟩
    exact ⟨⟨name, operator, values, hblank, hfit⟩, Expression.make?_eq_ok.2 ⟨rfl, rfl, rfl⟩⟩

section

variable {w : World} {k depth list : Nat} {key : Instance} {operator : Selector.Operator}
variable {path : List String} {values : List Value} {texts : List String} {f : Fault}
variable {e : Expression}

/-- A match whose operands end with a fault records nothing. -/
theorem matcher_declines [Library] (hk : w.IsMatcher k key.cls operator)
    (hkey : w.registry.lookup key = .ok (.key path (.record list)))
    (h : Flattens w.tables values (.error f)) :
    (callAt (depth + 1) (.host (.method k)) (.instance key :: values)).Declines w f := by
  have hcompare : (Selectors.compare key operator values).Declines w f := by
    rw [Run.Declines, run_compare_flatten hkey, operands_eq_iff.2 h]
    rfl
  rw [Run.Declines, run_callAt_matcher hk]
  exact hcompare.bind

/-- A match makes an expression of the texts of its operands. -/
theorem run_matcher_texts [Library] (hk : w.IsMatcher k key.cls operator)
    (hkey : w.registry.lookup key = .ok (.key path (.record list)))
    (h : Flattens w.tables values (.ok texts)) :
    (callAt (depth + 1) (.host (.method k)) (.instance key :: values)).run w =
      match Expression.make? (Text.join "." path) operator texts with
      | .error refusal => .error (.raised (.fault (.refused refusal))) w
      | .ok e => .ok [] { w with registry := w.registry.record list e } := by
  have htexts : (Selectors.liftFlatten (operands w.tables values)).run w = .ok texts w := by
    rw [operands_eq_iff.2 h]
    rfl
  rw [run_callAt_matcher hk, EStateM.run_bind, run_compare_flatten hkey,
    Run.run_bind_of_ok htexts]
  cases Expression.make? (Text.join "." path) operator texts <;> rfl

theorem recording_record (h : list < w.registry.recordings.size) :
    (w.registry.record list e).recording list = w.registry.recording list ++ [e] := by
  rw [Registry.recording, Registry.recording, Registry.record, Array.getElem?_modify, if_pos rfl,
    Array.getElem?_eq_getElem h]
  rfl

theorem recording_record_ne {other : Nat} (h : other ≠ list) :
    (w.registry.record list e).recording other = w.registry.recording other := by
  rw [Registry.recording, Registry.recording, Registry.record, Array.getElem?_modify,
    if_neg h.symm]

end

/-- What keeps a match on a key with trees of operands from making an expression. -/
def Hinders (path : List String) (operator : Selector.Operator) (os : List Operand) : Prop :=
  Operand.othersOf os ≠ [] ∨ (∃ v ∈ Operand.leavesOf os, v.Unfit) ∨
    Text.blank (Text.join "." path) = true ∨ ¬ (operator = .present ↔ Operand.leavesOf os = [])

section

variable {w : World} {k list : Nat} {key : Instance} {operator : Selector.Operator}
variable {path : List String} {os : List Operand}

/-- A match with trees of operands records what their leaves make, or is refused. -/
theorem matcher_trees [Library] (hk : w.IsMatcher k key.cls operator)
    (hkey : w.registry.lookup key = .ok (.key path (.record list)))
    (hstands : Operand.AllStand w.tables os) (depth : Nat) :
    (Hinders path operator os ∧ ∃ f, (callAt (depth + 1) (.host (.method k))
        (.instance key :: os.map Operand.value)).Declines w f) ∨
      ¬ Hinders path operator os ∧ ∃ e : Expression, e.key = Text.join "." path ∧
        e.operator = operator ∧
        (Operand.leavesOf os).map scalarText = e.values.map (fun s => .ok (some s)) ∧
        (callAt (depth + 1) (.host (.method k))
          (.instance key :: os.map Operand.value)).run w =
            .ok [] { w with registry := w.registry.record list e } := by
  obtain ⟨r, hr⟩ := Operand.exists_flattens hstands
  cases r with
  | error f =>
    refine .inl ⟨?_, f, matcher_declines hk hkey hr⟩
    by_contra hfree
    simp only [Hinders, not_or, not_not, not_exists, not_and] at hfree
    obtain ⟨hnone, hfits, -⟩ := hfree
    obtain ⟨texts, htexts⟩ := exists_texts hfits
    cases hr.unique ((Operand.flattens_iff hstands).2 ⟨hnone, hfits, htexts⟩)
  | ok texts =>
    obtain ⟨hnone, hfits, htexts⟩ := (Operand.flattens_iff hstands).1 hr
    have hnil : texts = [] ↔ Operand.leavesOf os = [] := by
      have hlength := congrArg List.length htexts
      rw [List.length_map, List.length_map] at hlength
      rw [← List.length_eq_zero_iff, ← List.length_eq_zero_iff, hlength]
    have hfree : ¬ Hinders path operator os ↔ Text.blank (Text.join "." path) = false ∧
        (operator = .present ↔ texts = []) := by
      simp only [Hinders, not_or, not_not, not_exists, not_and, hnil, hnone, Bool.not_eq_true]
      exact ⟨fun h => h.2.2, fun h => ⟨trivial, hfits, h⟩⟩
    have hrun : (callAt (depth + 1) (.host (.method k))
        (.instance key :: os.map Operand.value)).run w = _ := run_matcher_texts hk hkey hr
    rw [← exists_make?_iff] at hfree
    cases hmade : Expression.make? (Text.join "." path) operator texts with
    | error refusal =>
      rw [hmade] at hrun hfree
      exact .inl ⟨not_not.1 fun h => (nomatch hfree.1 h), .refused refusal, hrun⟩
    | ok e =>
      rw [hmade] at hrun hfree
      obtain ⟨hname, hoperator, rfl⟩ := Expression.make?_eq_ok.1 hmade
      exact .inr ⟨hfree.2 ⟨e, rfl⟩, e, hname, hoperator, htexts, hrun⟩

/-- Where all tables are sequences, the leaves could as well have been handed over one by one. -/
theorem run_matcher_of_leaves [Library] (hk : w.IsMatcher k key.cls operator)
    (hkey : w.registry.lookup key = .ok (.key path (.record list)))
    (hstands : Operand.AllStand w.tables os) (hnone : Operand.othersOf os = []) (depth : Nat) :
    (callAt (depth + 1) (.host (.method k)) (.instance key :: os.map Operand.value)).run w =
      (callAt (depth + 1) (.host (.method k)) (.instance key :: Operand.leavesOf os)).run w := by
  rw [run_callAt_matcher hk, run_callAt_matcher hk, EStateM.run_bind, EStateM.run_bind,
    run_compare_flatten hkey, run_compare_flatten hkey, Operand.operands_of_leaves hstands hnone]

end

theorem installed_compare_any {host : Host} {b : BoundMethod} {operator : Selector.Operator}
    (hb : b ∈ (Engine.installed host).registry.bound)
    (hbody : b.method.body = .selector (.compare operator)) : b.method.arity = .any := by
  have hall : ∀ b ∈ (Engine.installed default).registry.bound.toList,
      ∀ operator ∈ [Selector.Operator.equals, .notEquals, .isIn, .notIn, .present],
        b.method.body = .selector (.compare operator) → b.method.arity = .any := by
    decide +kernel
  rw [installed_registry host default] at hb
  exact hall b (Array.mem_def.1 hb) operator (by cases operator <;> simp) hbody

theorem installed_matcher (kind : Kind) {matcher : String × Selector.Operator}
    (h : matcher ∈ Selectors.matchers kind) :
    (Engine.installed default).registry.Defines (keyClass kind)
      ⟨matcher.1, .any, .selector (.compare matcher.2)⟩ := by
  have hall : ∀ kind ∈ [Kind.label, .field], ∀ matcher ∈ Selectors.matchers kind,
      (Engine.installed default).registry.Defines (keyClass kind)
        ⟨matcher.1, .any, .selector (.compare matcher.2)⟩ := by
    decide +kernel
  exact hall kind (by cases kind <;> simp) matcher h

/-- A class with paths is found by the name of the class of keys. -/
theorem installed_classId?_key {host : Host} {kind : Kind} {cls : Nat} {c : Class}
    (hc : (Engine.installed host).registry.classes[cls]? = some c)
    (htrap : c.trap = some (.path kind)) :
    (Engine.installed host).registry.classId? (keyClass kind) = some cls := by
  have hall : ∀ cls ∈ List.range (Engine.installed default).registry.classes.length,
      ∀ kind ∈ [Kind.label, .field],
        ((Engine.installed default).registry.classes[cls]?.bind (·.trap)) = some (.path kind) →
          (Engine.installed default).registry.classId? (keyClass kind) = some cls := by
    decide +kernel
  rw [installed_registry host default] at hc ⊢
  obtain ⟨hlt, -⟩ := List.getElem?_eq_some_iff.1 hc
  exact hall cls (List.mem_range.2 hlt) kind (by cases kind <;> simp)
    (by rw [hc, Option.bind_some, htrap])

namespace Moment

variable {host : Host} {k : Nat} {key : Instance} {kind : Kind} {operator : Selector.Operator}

/-- The methods that compare take any number of operands. -/
theorem isMatcher [Library] (m : Moment host) {b : BoundMethod}
    (hbound : m.world.registry.bound[k]? = some b)
    (hbody : b.method.body = .selector (.compare operator)) :
    m.world.IsMatcher k b.cls operator := by
  have hb : b ∈ (Engine.installed host).registry.bound := by
    rw [← m.carries.bound]
    exact Array.mem_of_getElem? hbound
  exact ⟨b, hbound, rfl, installed_compare_any hb hbody, hbody⟩

/-- The class of a key has the matchers of its kind. -/
theorem exists_matcher [Library] (m : Moment host) (hkey : m.world.IsKeyOf key kind)
    {matcher : String × Selector.Operator} (hmatcher : matcher ∈ Selectors.matchers kind) :
    ∃ (k : Nat) (b : BoundMethod), m.world.registry.bound[k]? = some b ∧ b.cls = key.cls ∧
      b.method = ⟨matcher.1, .any, .selector (.compare matcher.2)⟩ := by
  obtain ⟨c, hc, htrap⟩ := m.keyClass hkey
  have hcls := (m.carries.classId? _).trans (installed_classId?_key hc htrap)
  exact (m.defines (installed_matcher kind hmatcher)).bound hcls

end Moment

/-- **Nesting of operands does not matter.** At every moment of a session, take a key that is
attached to a collector, and operands that are finite trees of tables, over any leaves. The class
of the key has all matchers of its kind. A match by any method of the class that compares is
refused, and nothing at all is changed, exactly if some table has an entry outside of its sequence,
a leaf is unfit, the key is blank, or the number of leaves does not fit the operator. Otherwise it
records exactly one expression, with the collector of the key and no other; its values are the
texts of the leaves from left to right, and handing over the leaves one by one does the same. -/
theorem nested_operands_recorded [Library] {host : Host} (m : Moment host)
    {collector key : Instance}
    {os : List Operand} (hattached : attached collector m.deeds key = true)
    (hstands : Operand.AllStand m.world.tables os) :
    ∃ kind list path, m.world.Collects collector kind list ∧ m.world.IsKeyOf key kind ∧
      m.world.registry.lookup key = .ok (.key path (.record list)) ∧
      (∀ matcher ∈ Selectors.matchers kind, ∃ (k : Nat) (b : BoundMethod),
        m.world.registry.bound[k]? = some b ∧ b.cls = key.cls ∧
          b.method = ⟨matcher.1, .any, .selector (.compare matcher.2)⟩) ∧
      ∀ (depth k : Nat) (b : BoundMethod) (operator : Selector.Operator),
        m.world.registry.bound[k]? = some b → b.cls = key.cls →
        b.method.body = .selector (.compare operator) →
          ((∃ f, (callAt (depth + 1) (.host (.method k))
              (.instance key :: os.map Operand.value)).Declines m.world f) ↔
            Operand.othersOf os ≠ [] ∨ (∃ v ∈ Operand.leavesOf os, v.Unfit) ∨
              Text.blank (Text.join "." path) = true ∨
              ¬ (operator = .present ↔ Operand.leavesOf os = [])) ∧
          ((¬ ∃ f, (callAt (depth + 1) (.host (.method k))
              (.instance key :: os.map Operand.value)).Declines m.world f) →
            ∃ (e : Expression) (w' : World), e.key = Text.join "." path ∧ e.operator = operator ∧
              (Operand.leavesOf os).map scalarText = e.values.map (fun s => .ok (some s)) ∧
              (callAt (depth + 1) (.host (.method k))
                (.instance key :: os.map Operand.value)).run m.world = .ok [] w' ∧
              (callAt (depth + 1) (.host (.method k))
                (.instance key :: Operand.leavesOf os)).run m.world = .ok [] w' ∧
              w' = { m.world with registry := m.world.registry.record list e } ∧
              w'.registry.recording list = m.world.registry.recording list ++ [e] ∧
              ∀ other, other ≠ list →
                w'.registry.recording other = m.world.registry.recording other) := by
  obtain ⟨kind, list, hcollects, path, hkey⟩ := m.account.attached.1 hattached
  obtain ⟨collector', kind', hcollects', hclass⟩ := m.account.owned ⟨path, hkey⟩
  obtain rfl := m.account.distinct hcollects hcollects'
  obtain ⟨rfl, -⟩ := hcollects.unique hcollects'
  have hlist : list < m.world.registry.recordings.size := by
    obtain ⟨hlt, -⟩ := Array.getElem?_eq_some_iff.1 (m.account.kept hcollects)
    exact hlt
  refine ⟨_, list, path, hcollects, hclass, hkey, fun _ => m.exists_matcher hclass, ?_⟩
  intro depth k b operator hbound hcls hbody
  have hk : m.world.IsMatcher k key.cls operator := hcls ▸ m.isMatcher hbound hbody
  obtain ⟨hhinders, f, hdeclines⟩ | ⟨hfree, e, hname, hoperator, htexts, hrun⟩ :=
    matcher_trees hk hkey hstands depth
  · exact ⟨⟨fun _ => hhinders, fun _ => ⟨f, hdeclines⟩⟩, fun h => absurd ⟨f, hdeclines⟩ h⟩
  · refine ⟨⟨?_, fun hhinders => absurd hhinders hfree⟩, fun _ => ?_⟩
    · rintro ⟨f, hdeclines⟩
      cases hdeclines.symm.trans hrun
    · have hnone : Operand.othersOf os = [] := not_not.1 fun hsome => hfree (.inl hsome)
      refine ⟨e, _, hname, hoperator, htexts, hrun, ?_, rfl, recording_record hlist,
        fun other hother => recording_record_ne hother⟩
      rw [← run_matcher_of_leaves hk hkey hstands hnone, hrun]

/-! ## A key of `app` -/

/-- `{"b", 7}` -/
def innerItems : Table := ⟨[(.ofNat 1, .text "b"), (.ofNat 2, .ofNat 7)], false, 0⟩

/-- A table with that one in it, and a truth value. -/
def outerItems (inner : Nat) : Table :=
  ⟨[(.ofNat 2, .bool true), (.ofNat 1, .table inner)], false, 0⟩

/-- `"a", {{"b", 7}, true}` -/
def nestedOperands (inner outer : Nat) : List Operand :=
  [.leaf (.text "a"),
    .table outer [.table inner [.leaf (.text "b"), .leaf (.ofNat 7)] [], .leaf (.bool true)] []]

theorem nestedOperands_leaves (inner outer : Nat) :
    Operand.leavesOf (nestedOperands inner outer) =
        [.text "a", .text "b", .ofNat 7, .bool true] ∧
      Operand.othersOf (nestedOperands inner outer) = [] := by
  simp [nestedOperands, Operand.leavesOf, Operand.leaves, Operand.othersOf, Operand.others]

theorem nestedOperands_stand {tables : Array Table} {inner outer : Nat}
    (hinner : tableOf tables inner = innerItems)
    (houter : tableOf tables outer = outerItems inner) :
    Operand.AllStand tables (nestedOperands inner outer) := by
  have hinnerHolds : innerItems.Holds [.text "b", .ofNat 7] [] :=
    ⟨.refl _, by unfold Table.Distinct; decide, by simp, by decide, by simp⟩
  have houterHolds : (outerItems inner).Holds [.table inner, .bool true] [] :=
    ⟨.swap .., show [Value.ofNat 2, .ofNat 1].Nodup by decide, by simp, by simp, by simp⟩
  refine ⟨nofun, ⟨houter ▸ houterHolds, ⟨hinner ▸ hinnerHolds, nofun, nofun, trivial⟩, nofun,
    trivial⟩, trivial⟩

theorem exists_nestedOperands [Library] : ∃ (m : Moment default) (collector key : Instance)
    (list inner outer : Nat), m.world.Collects collector .label list ∧
      attached collector m.deeds key = true ∧
      m.world.registry.lookup key = .ok (.key ["app"] (.record list)) ∧
      Operand.AllStand m.world.tables (nestedOperands inner outer) := by
  obtain ⟨collector, list, known, w, -, hopens, hstep⟩ :=
    Selectors.openCollector_opens (Moment.first default).furnished .label
  obtain ⟨opened, ⟨-, hopened⟩, rfl⟩ := (Moment.first default).next_of_step hstep
  obtain ⟨key, hknown⟩ : ∃ key, ("app", key) ∈ known := by
    have happ : "app" ∈ known.map Prod.fst := by
      rw [hopens.names]
      decide
    obtain ⟨⟨_, key⟩, hmem, rfl⟩ := List.mem_map.1 happ
    exact ⟨key, hmem⟩
  have hlookup := hopens.lookup
  have hattached : attached collector opened.deeds key = true := by
    have hany : (known.any fun p => decide (p.2 = key)) = true :=
      List.any_eq_true.2 ⟨_, hknown, by simp⟩
    rw [hopened, attached]
    simp [hany]
  let inner := opened.world.tables.size
  let w : World := { opened.world with
    tables := (opened.world.tables.push innerItems).push (outerItems inner) }
  have hown : Step opened.world .own w := .own rfl rfl
  obtain ⟨m, ⟨-, hdeeds⟩, hworld⟩ := opened.next_of_step hown
  refine ⟨m, collector, key, list, inner, inner + 1, ⟨known, ?_⟩, ?_, ?_, ?_⟩
  · rw [hworld]
    exact (hlookup _ _).2 (.inr (.inr ⟨rfl, rfl⟩))
  · rw [hdeeds]
    exact attached_later hattached
  · rw [hworld]
    exact (hlookup _ _).2 (.inr (.inl ⟨"app", hknown, rfl⟩))
  · rw [hworld]
    apply nestedOperands_stand
    · have hne : inner ≠ (opened.world.tables.push innerItems).size := by simp [inner]
      rw [tableOf, Array.getElem?_push, if_neg hne, Array.getElem?_push_size]
      rfl
    · have hsize : inner + 1 = (opened.world.tables.push innerItems).size := by simp [inner]
      rw [tableOf, hsize, Array.getElem?_push_size]
      rfl

open Library.Standard

theorem nested_operands_recorded_app :
    ∃ (m : Moment default) (collector key : Instance) (list inner outer : Nat),
      m.world.Collects collector .label list ∧ attached collector m.deeds key = true ∧
      Operand.AllStand m.world.tables (nestedOperands inner outer) ∧
      ∃ (k : Nat) (b : BoundMethod) (e : Expression) (w' : World),
        m.world.registry.bound[k]? = some b ∧ b.cls = key.cls ∧
        b.method = ⟨"in", .any, .selector (.compare .isIn)⟩ ∧ e.key = "app" ∧
        e.operator = .isIn ∧ e.values = ["a", "b", "7", "true"] ∧
        (callAt 1 (.host (.method k))
          [.instance key, .text "a", .table outer]).run m.world = .ok [] w' ∧
        w'.registry.recording list = m.world.registry.recording list ++ [e] := by
  obtain ⟨m, collector, key, list, inner, outer, hcollects, hattached, hkey, hstands⟩ :=
    exists_nestedOperands
  refine ⟨m, collector, key, list, inner, outer, hcollects, hattached, hstands, ?_⟩
  obtain ⟨kind, list', path, hcollects', -, hkey', hmatchers, hmatch⟩ :=
    nested_operands_recorded m hattached hstands
  obtain ⟨rfl, rfl⟩ := hcollects.unique hcollects'
  cases hkey.symm.trans hkey'
  obtain ⟨k, b, hbound, hcls, hmethod⟩ := hmatchers ("in", .isIn) (by decide)
  obtain ⟨hiff, hrecorded⟩ := hmatch 0 k b .isIn hbound hcls (by rw [hmethod])
  have hfree : ¬ ∃ f, (callAt (0 + 1) (.host (.method k)) (.instance key ::
      (nestedOperands inner outer).map Operand.value)).Declines m.world f := by
    obtain ⟨hleaves, hothers⟩ := nestedOperands_leaves inner outer
    rw [hiff, hleaves, hothers]
    rintro (hsome | ⟨v, hv, hunfit⟩ | hblank | hcount)
    · exact hsome rfl
    · simp only [List.mem_cons, List.not_mem_nil, or_false] at hv
      obtain rfl | rfl | rfl | rfl := hv
      · exact not_unfit (s := "a") rfl (by decide) hunfit
      · exact not_unfit (s := "b") rfl (by decide) hunfit
      · exact not_unfit (s := "7") rfl (by decide) hunfit
      · exact not_unfit (s := "true") rfl (by decide) hunfit
    · exact absurd hblank (by decide)
    · exact hcount (by simp)
  obtain ⟨e, w', hname, hoperator, htexts, hrun, -, -, hlist, -⟩ := hrecorded hfree
  refine ⟨k, b, e, w', hbound, hcls, hmethod, hname, hoperator, ?_, hrun, hlist⟩
  rw [(nestedOperands_leaves inner outer).1] at htexts
  have hvalues : (["a", "b", "7", "true"] : List String).map (fun s => Except.ok (some s)) =
      e.values.map fun s => (.ok (some s) : Except Fault (Option String)) := htexts
  have hinj : Function.Injective fun s : String => (.ok (some s) : Except Fault (Option String)) :=
    fun a b h => Option.some.inj (Except.ok.inj h)
  exact (List.map_injective_iff.2 hinj hvalues).symm

end ClusterScript.Script
