import ClusterScript.Cluster.Decoding
import ClusterScript.Proofs.Script.Recordings
import Mathlib.Data.List.Chain
import Mathlib.Data.List.Nodup
import Mathlib.Data.List.Perm.Subperm
import Mathlib.Data.List.Range
import Mathlib.Logic.Relation
import Mathlib.Order.WellFounded

/-!
# How flattening ends

Flattening follows the references between tables, so whether it ends depends
on how the tables of a script hold each other. What it does is told here by a
relation without any bound; the depth that `operands` counts decides it: a
table nested deeper than there are tables is inside of itself.

* `Flattens`: flattening comes to an end.
* `Reaches`, `Opens`: flattening comes to a table, in a list and in another table.
* `Endless`: it comes to a table that it goes on inside of itself.
* `operands_eq_iff`: `operands` ends as flattening does, and is too deep
  exactly where that has no end.
* `flattening_ends_iff`: a match with such operands ends the process.
-/
namespace ClusterScript.Script

open Relation
open Selector (Expression)

/-! ## Flattening without a bound -/

section

variable (tables : Array Table)

/-- A table by its number. -/
def tableOf (id : Nat) : Table := tables[id]?.getD .empty

/-- Flattening operands comes to an end with texts or a fault: one rule for each thing that it
does with the first operand. -/
inductive Flattens : List Value → Except Fault (List String) → Prop
  | nil : Flattens [] (.ok [])
  | scalar {v : Value} {rest : List Value} {s : String} {r : Except Fault (List String)} :
      (∀ id, v ≠ .table id) → operandText v = .ok s → Flattens rest r →
        Flattens (v :: rest) (r.map (s :: ·))
  | refused {v : Value} {rest : List Value} {f : Fault} :
      (∀ id, v ≠ .table id) → operandText v = .error (.fault f) →
        Flattens (v :: rest) (.error f)
  | named {id : Nat} {rest : List Value} :
      (tableOf tables id).hasOtherKeys = true →
        Flattens (.table id :: rest) (.error (.refused .mapOperand))
  | opened {id : Nat} {rest : List Value} {texts : List String}
      {r : Except Fault (List String)} :
      (tableOf tables id).hasOtherKeys = false →
      Flattens (tableOf tables id).sequence (.ok texts) → Flattens rest r →
        Flattens (.table id :: rest) (r.map (texts ++ ·))
  | failed {id : Nat} {rest : List Value} {f : Fault} :
      (tableOf tables id).hasOtherKeys = false →
      Flattens (tableOf tables id).sequence (.error f) → Flattens (.table id :: rest) (.error f)

/-- Flattening operands comes to this table: what is before it flattens to texts. -/
def Reaches (values : List Value) (id : Nat) : Prop :=
  ∃ before after texts, values = before ++ .table id :: after ∧
    Flattens tables before (.ok texts)

/-- Flattening goes from a table to one in it. -/
def Opens (a b : Nat) : Prop :=
  (tableOf tables a).hasOtherKeys = false ∧ Reaches tables (tableOf tables a).sequence b

/-- Flattening comes to a table with so many others inside of each other. -/
def Nests (depth : Nat) (values : List Value) : Prop :=
  ∃ first chain, Reaches tables values first ∧ (first :: chain).IsChain (Opens tables) ∧
    chain.length = depth

/-- Flattening comes to a table that it comes to again inside of it. -/
def Endless (values : List Value) : Prop :=
  ∃ first id, Reaches tables values first ∧ ReflTransGen (Opens tables) first id ∧
    TransGen (Opens tables) id id

end

section

variable {tables : Array Table} {v : Value} {values rest : List Value} {id depth : Nat}
variable {r r' : Except Fault (List String)} {texts : List String}

/-! ## The depth that flattening needs -/

theorem flattenAll_nil : flattenAll tables depth [] = .ok [] := by rw [flattenAll]

theorem flattenAll_scalar (hv : ∀ id, v ≠ .table id) :
    flattenAll tables depth (v :: rest) = (do
      let s ← operandText v
      let more ← flattenAll tables depth rest
      return s :: more) := by
  have hone : flatten tables depth v = (do return [← operandText v]) := by
    cases v with
    | table id => exact absurd rfl (hv id)
    | _ => rw [flatten]; simp
  rw [flattenAll, hone]
  cases operandText v <;> rfl

theorem flattenAll_unopened :
    flattenAll tables 0 (.table id :: rest) = .error .tooDeep := by
  rw [flattenAll, flatten]
  rfl

theorem flattenAll_table :
    flattenAll tables (depth + 1) (.table id :: rest) =
      if (tableOf tables id).hasOtherKeys then .error (.fault (.refused .mapOperand))
      else do
        let first ← flattenAll tables depth (tableOf tables id).sequence
        let more ← flattenAll tables (depth + 1) rest
        return first ++ more := by
  rw [flattenAll, flatten, ← tableOf]
  by_cases hkeys : (tableOf tables id).hasOtherKeys = true
  · simp only [if_pos hkeys]
    rfl
  · simp only [if_neg hkeys]

/-- Where flattening comes to an end, it does so in some depth and in all beyond. -/
theorem Flattens.exists_depth (h : Flattens tables values r) :
    ∃ n, ∀ depth, n ≤ depth → flattenAll tables depth values = r.mapError .fault := by
  induction h with
  | nil => exact ⟨0, fun _ _ => flattenAll_nil⟩
  | @scalar _ _ _ r hv htext _ ih =>
    obtain ⟨n, hn⟩ := ih
    refine ⟨n, fun depth hdepth => ?_⟩
    rw [flattenAll_scalar hv, htext, hn depth hdepth]
    cases r <;> rfl
  | refused hv htext => exact ⟨0, fun _ _ => by rw [flattenAll_scalar hv, htext]; rfl⟩
  | named hkeys =>
    refine ⟨1, fun depth hdepth => ?_⟩
    obtain ⟨depth, rfl⟩ := Nat.exists_eq_add_of_le' hdepth
    rw [flattenAll_table, if_pos hkeys]
    rfl
  | @opened _ _ _ r hkeys _ _ ihitems ihrest =>
    obtain ⟨n, hn⟩ := ihitems
    obtain ⟨m, hm⟩ := ihrest
    refine ⟨n + m + 1, fun depth hdepth => ?_⟩
    obtain ⟨depth, rfl⟩ := Nat.exists_eq_add_of_le' (Nat.le_trans (Nat.le_add_left 1 _) hdepth)
    rw [flattenAll_table, if_neg (by simp [hkeys]), hn depth (by omega), hm _ (by omega)]
    cases r <;> rfl
  | failed hkeys _ ih =>
    obtain ⟨n, hn⟩ := ih
    refine ⟨n + 1, fun depth hdepth => ?_⟩
    obtain ⟨depth, rfl⟩ := Nat.exists_eq_add_of_le' (Nat.le_trans (Nat.le_add_left 1 _) hdepth)
    rw [flattenAll_table, if_neg (by simp [hkeys]), hn depth (by omega)]
    rfl

theorem mapError_fault_inj {α : Type} {r r' : Except Fault α}
    (h : r.mapError FlattenStop.fault = r'.mapError .fault) : r = r' := by
  cases r <;> cases r' <;> cases h <;> rfl

theorem Flattens.unique (h : Flattens tables values r) (h' : Flattens tables values r') :
    r = r' := by
  obtain ⟨n, hn⟩ := h.exists_depth
  obtain ⟨m, hm⟩ := h'.exists_depth
  exact mapError_fault_inj ((hn (n + m) (by omega)).symm.trans (hm (n + m) (by omega)))

/-! ## Coming to a table -/

theorem Flattens.cons {first : List String} (hone : Flattens tables [v] (.ok first))
    (hrest : Flattens tables rest r) : Flattens tables (v :: rest) (r.map (first ++ ·)) := by
  generalize hr : Except.ok first = r₁ at hone
  cases hone with
  | scalar hv htext hnil =>
    cases hnil
    cases hr
    exact .scalar hv htext hrest
  | opened hkeys hitems hnil =>
    cases hnil
    cases hr
    simpa only [List.append_nil] using Flattens.opened hkeys hitems hrest
  | _ => cases hr

/-- A table flattens as its sequence does. -/
theorem Flattens.one_table (hkeys : (tableOf tables id).hasOtherKeys = false)
    (hitems : Flattens tables (tableOf tables id).sequence r) :
    Flattens tables [.table id] r := by
  cases r with
  | error f => exact .failed hkeys hitems
  | ok texts => simpa only [Except.map, List.append_nil] using Flattens.opened hkeys hitems .nil

theorem Flattens.cons_error {f : Fault} (hone : Flattens tables [v] (.error f)) :
    Flattens tables (v :: rest) (.error f) := by
  generalize hr : Except.error f = r at hone
  cases hone with
  | refused hv htext =>
    cases hr
    exact .refused hv htext
  | named hkeys =>
    cases hr
    exact .named hkeys
  | failed hkeys hitems =>
    cases hr
    exact .failed hkeys hitems
  | scalar _ _ hnil | opened _ _ hnil =>
    cases hnil
    cases hr

/-- The first operand decides, or the rest goes on behind its texts. -/
theorem Flattens.cons_cases (h : Flattens tables (v :: rest) r) :
    (∃ first more, Flattens tables [v] (.ok first) ∧ Flattens tables rest more ∧
      r = more.map (first ++ ·)) ∨
      ∃ f, Flattens tables [v] (.error f) ∧ r = .error f := by
  cases h with
  | scalar hv htext hrest => exact .inl ⟨[_], _, .scalar hv htext .nil, hrest, rfl⟩
  | refused hv htext => exact .inr ⟨_, .refused hv htext, rfl⟩
  | named hkeys => exact .inr ⟨_, .named hkeys, rfl⟩
  | opened hkeys hitems hrest => exact .inl ⟨_, _, .one_table hkeys hitems, hrest, rfl⟩
  | failed hkeys hitems => exact .inr ⟨_, .failed hkeys hitems, rfl⟩

theorem flattens_cons_ok :
    Flattens tables (v :: rest) (.ok texts) ↔
      ∃ first more, Flattens tables [v] (.ok first) ∧ Flattens tables rest (.ok more) ∧
        texts = first ++ more := by
  constructor
  · intro h
    obtain ⟨first, r, hone, hrest, hr⟩ | ⟨f, -, hr⟩ := h.cons_cases
    · cases r with
      | error => cases hr
      | ok more =>
        cases hr
        exact ⟨first, more, hone, hrest, rfl⟩
    · cases hr
  · rintro ⟨first, more, hone, hrest, rfl⟩
    exact hone.cons hrest

theorem reaches_cons :
    Reaches tables (v :: rest) id ↔
      v = .table id ∨ (∃ first, Flattens tables [v] (.ok first)) ∧ Reaches tables rest id := by
  constructor
  · rintro ⟨before, after, texts, hsplit, hbefore⟩
    cases before with
    | nil => exact .inl (List.cons.inj hsplit).1
    | cons u before =>
      obtain ⟨rfl, hrest⟩ := List.cons.inj hsplit
      obtain ⟨first, more, hone, hmore, -⟩ := flattens_cons_ok.1 hbefore
      exact .inr ⟨⟨first, hone⟩, before, after, more, hrest, hmore⟩
  · rintro (rfl | ⟨⟨first, hone⟩, before, after, more, rfl, hmore⟩)
    · exact ⟨[], rest, [], rfl, .nil⟩
    · exact ⟨v :: before, after, _, rfl, flattens_cons_ok.2 ⟨first, more, hone, hmore, rfl⟩⟩

theorem not_reaches_nil : ¬ Reaches tables [] id := by
  rintro ⟨before, after, texts, hsplit, -⟩
  simp at hsplit

/-- A table that has others in it is one of the tables there are. -/
theorem Opens.lt_size {a b : Nat} (h : Opens tables a b) : a < tables.size := by
  by_contra hle
  have hseq : (tableOf tables a).sequence = [] := by
    rw [tableOf, Array.getElem?_eq_none (by omega)]
    rfl
  exact not_reaches_nil (hseq ▸ h.2)

/-- What flattening comes to, where it ends, is not inside of itself. -/
theorem Flattens.acc (h : Flattens tables values r) :
    ∀ id, Reaches tables values id → Acc (flip (Opens tables)) id := by
  induction h with
  | nil => exact fun id hid => absurd hid not_reaches_nil
  | scalar hv _ _ ih =>
    intro id hid
    rcases reaches_cons.1 hid with rfl | ⟨-, hid⟩
    · exact absurd rfl (hv id)
    · exact ih id hid
  | refused hv htext =>
    intro id hid
    rcases reaches_cons.1 hid with rfl | ⟨⟨_, hone⟩, -⟩
    · exact absurd rfl (hv id)
    · cases hone.unique (.refused hv htext)
  | named hkeys =>
    intro id hid
    rcases reaches_cons.1 hid with heq | ⟨⟨_, hone⟩, -⟩
    · cases heq
      exact ⟨_, fun b hb => by cases hkeys.symm.trans hb.1⟩
    · cases hone.unique (.named hkeys)
  | opened _ _ _ ihitems ihrest =>
    intro id hid
    rcases reaches_cons.1 hid with heq | ⟨-, hid⟩
    · cases heq
      exact ⟨_, fun b hb => ihitems b hb.2⟩
    · exact ihrest id hid
  | failed hkeys hitems ih =>
    intro id hid
    rcases reaches_cons.1 hid with heq | ⟨⟨_, hone⟩, -⟩
    · cases heq
      exact ⟨_, fun b hb => ih b hb.2⟩
    · cases hone.unique (.failed hkeys hitems)

theorem not_cycle_of_acc {a : Nat} (h : Acc (flip (Opens tables)) a) :
    ∀ id, ReflTransGen (Opens tables) a id → ¬ TransGen (Opens tables) id id := by
  induction h with
  | intro a _ ih =>
    intro id hpath hcycle
    obtain ⟨b, hopens, hrest⟩ : ∃ b, Opens tables a b ∧ ReflTransGen (Opens tables) b id := by
      rcases hpath.cases_head with rfl | hstep
      · exact TransGen.head'_iff.1 hcycle
      · exact hstep
    exact ih b hopens id hrest hcycle

theorem Flattens.not_endless (h : Flattens tables values r) : ¬ Endless tables values := by
  rintro ⟨first, id, hfirst, hpath, hcycle⟩
  exact not_cycle_of_acc (h.acc first hfirst) id hpath hcycle

/-! ## Too deep -/

/-- What flattening to a depth tells of flattening without a bound. -/
def Accounts (tables : Array Table) (depth : Nat) (values : List Value) :
    Except FlattenStop (List String) → Prop
  | .ok texts => Flattens tables values (.ok texts)
  | .error (.fault f) => Flattens tables values (.error f)
  | .error .tooDeep => Nests tables depth values

theorem accounts_cons {first : List String} (hone : Flattens tables [v] (.ok first))
    {result : Except FlattenStop (List String)} (h : Accounts tables depth rest result) :
    Accounts tables depth (v :: rest) (do
      let more ← result
      return first ++ more) := by
  match result, h with
  | .ok _, h => exact hone.cons h
  | .error (.fault _), h => exact hone.cons h
  | .error .tooDeep, ⟨id, chain, hid, hchain, hlen⟩ =>
    exact ⟨id, chain, reaches_cons.2 (.inr ⟨⟨first, hone⟩, hid⟩), hchain, hlen⟩

theorem operandText_ne_tooDeep : operandText v ≠ .error .tooDeep := by
  unfold operandText
  split
  · simp
  · simp
  · split <;> simp

theorem accounts_flattenAll : ∀ (depth : Nat) (values : List Value),
    Accounts tables depth values (flattenAll tables depth values)
  | depth, [] => by
    rw [flattenAll_nil]
    exact .nil
  | depth, v :: rest => by
    have hrest := accounts_flattenAll depth rest
    by_cases hv : ∀ id, v ≠ .table id
    · rw [flattenAll_scalar hv]
      cases htext : operandText v with
      | ok s => exact accounts_cons (.scalar hv htext .nil) hrest
      | error stop =>
        cases stop with
        | fault f => exact .refused hv htext
        | tooDeep => exact absurd htext operandText_ne_tooDeep
    · obtain ⟨id, rfl⟩ := not_forall_not.1 hv
      cases depth with
      | zero =>
        rw [flattenAll_unopened]
        exact ⟨id, [], reaches_cons.2 (.inl rfl), .singleton id, rfl⟩
      | succ depth =>
        rw [flattenAll_table]
        split
        · next hkeys => exact .named hkeys
        · next hkeys =>
          rw [Bool.not_eq_true] at hkeys
          have hitems := accounts_flattenAll depth (tableOf tables id).sequence
          match flattenAll tables depth (tableOf tables id).sequence, hitems with
          | .ok first, hitems => exact accounts_cons (.one_table hkeys hitems) hrest
          | .error (.fault f), hitems => exact .failed hkeys hitems
          | .error .tooDeep, ⟨first, chain, hfirst, hchain, hlen⟩ =>
            refine ⟨id, first :: chain, reaches_cons.2 (.inl rfl), ?_, by simp [hlen]⟩
            exact .cons_cons ⟨hkeys, hfirst⟩ hchain
termination_by depth values => (depth, values.length)

theorem nests_cons : Nests tables depth (v :: rest) ↔
    Nests tables depth [v] ∨
      (∃ first, Flattens tables [v] (.ok first)) ∧ Nests tables depth rest := by
  constructor
  · rintro ⟨first, chain, hfirst, hchain, hlen⟩
    rcases reaches_cons.1 hfirst with rfl | ⟨hone, hfirst⟩
    · exact .inl ⟨first, chain, reaches_cons.2 (.inl rfl), hchain, hlen⟩
    · exact .inr ⟨hone, first, chain, hfirst, hchain, hlen⟩
  · rintro (⟨first, chain, hfirst, hchain, hlen⟩ | ⟨hone, first, chain, hfirst, hchain, hlen⟩)
    · rcases reaches_cons.1 hfirst with rfl | ⟨-, hnil⟩
      · exact ⟨first, chain, reaches_cons.2 (.inl rfl), hchain, hlen⟩
      · exact absurd hnil not_reaches_nil
    · exact ⟨first, chain, reaches_cons.2 (.inr ⟨hone, hfirst⟩), hchain, hlen⟩

theorem not_nests_scalar (hv : ∀ id, v ≠ .table id) : ¬ Nests tables depth [v] := by
  rintro ⟨first, chain, hfirst, -, -⟩
  rcases reaches_cons.1 hfirst with h | ⟨-, hnil⟩
  · exact hv first h
  · exact not_reaches_nil hnil

/-- One table nests deeper than what is in it. -/
theorem nests_succ_table : Nests tables (depth + 1) [.table id] ↔
    (tableOf tables id).hasOtherKeys = false ∧
      Nests tables depth (tableOf tables id).sequence := by
  constructor
  · rintro ⟨first, chain, hfirst, hchain, hlen⟩
    rcases reaches_cons.1 hfirst with heq | ⟨-, hnil⟩
    · cases heq
      obtain ⟨next, chain, rfl⟩ := List.exists_cons_of_length_eq_add_one hlen
      obtain ⟨⟨hkeys, hnext⟩, hchain⟩ := List.isChain_cons_cons.1 hchain
      exact ⟨hkeys, next, chain, hnext, hchain, by simpa using hlen⟩
    · exact absurd hnil not_reaches_nil
  · rintro ⟨hkeys, first, chain, hfirst, hchain, hlen⟩
    exact ⟨id, first :: chain, reaches_cons.2 (.inl rfl), .cons_cons ⟨hkeys, hfirst⟩ hchain,
      by rw [List.length_cons, hlen]⟩

theorem tooDeep_of_nests : ∀ (depth : Nat) (values : List Value), Nests tables depth values →
    flattenAll tables depth values = .error .tooDeep
  | _, [], ⟨_, _, hfirst, _⟩ => absurd hfirst not_reaches_nil
  | depth, v :: rest, h => by
    have ihrest := tooDeep_of_nests depth rest
    rw [nests_cons] at h
    by_cases hv : ∀ id, v ≠ .table id
    · obtain ⟨⟨first, hone⟩, hrest⟩ := h.resolve_left (not_nests_scalar hv)
      rw [flattenAll_scalar hv, ihrest hrest]
      cases htext : operandText v with
      | ok s => rfl
      | error stop =>
        cases stop with
        | fault f => cases hone.unique (.refused hv htext)
        | tooDeep => rfl
    · obtain ⟨id, rfl⟩ := not_forall_not.1 hv
      cases depth with
      | zero => exact flattenAll_unopened
      | succ depth =>
        rw [flattenAll_table]
        rcases h with hone | ⟨⟨first, hone⟩, hrest⟩
        · obtain ⟨hkeys, hitems⟩ := nests_succ_table.1 hone
          rw [if_neg (by simp [hkeys]), tooDeep_of_nests depth _ hitems]
          rfl
        · rw [ihrest hrest]
          split
          · next hkeys => cases hone.unique (.named hkeys)
          · next hkeys =>
            rw [Bool.not_eq_true] at hkeys
            have hitems : Accounts tables depth _ _ :=
              accounts_flattenAll depth (tableOf tables id).sequence
            match flattenAll tables depth (tableOf tables id).sequence, hitems with
            | .ok _, _ => rfl
            | .error (.fault f), hitems => cases hone.unique (.one_table hkeys hitems)
            | .error .tooDeep, _ => rfl
termination_by depth values => (depth, values.length)

/-- Flattening to a depth is too deep exactly where tables nest deeper. -/
theorem flattenAll_tooDeep_iff :
    flattenAll tables depth values = .error .tooDeep ↔ Nests tables depth values := by
  refine ⟨fun h => ?_, tooDeep_of_nests depth values⟩
  have haccounts : Accounts tables depth values _ := accounts_flattenAll depth values
  rwa [h] at haccounts

/-- Along a chain longer than there are tables, one of them comes again. -/
theorem exists_cycle_of_chain {first : Nat} {chain : List Nat}
    (h : (first :: chain).IsChain (Opens tables)) (hlen : tables.size < chain.length) :
    ∃ id, ReflTransGen (Opens tables) first id ∧ TransGen (Opens tables) id id := by
  by_contra hnone
  have hpaths : (first :: chain).Pairwise (TransGen (Opens tables)) :=
    List.isChain_iff_pairwise.1 (h.imp fun _ _ => .single)
  have hreached : ∀ id ∈ first :: chain, ReflTransGen (Opens tables) first id := by
    rintro id (_ | ⟨_, hid⟩)
    · exact .refl
    · exact ((List.pairwise_cons.1 hpaths).1 id hid).to_reflTransGen
  have hnodup : (first :: chain).Nodup := by
    refine hpaths.imp_of_mem fun {a b} ha _ hab heq => hnone ⟨a, hreached a ha, ?_⟩
    rwa [← heq] at hab
  -- each table of the chain but the last has others in it
  have hopen : ∀ id ∈ (first :: chain).dropLast, id ∈ List.range tables.size := by
    intro id hid
    rw [← List.dropLast_append_getLast (List.cons_ne_nil first chain)] at hpaths
    have hlast := (List.pairwise_append.1 hpaths).2.2 id hid _ (List.mem_singleton_self _)
    obtain ⟨b, hopens, -⟩ := TransGen.head'_iff.1 hlast
    exact List.mem_range.2 hopens.lt_size
  have hle := (List.subperm_of_subset (hnodup.sublist (List.dropLast_sublist _)) hopen).length_le
  rw [List.length_dropLast, List.length_cons, List.length_range] at hle
  omega

theorem accounts_operands (tables : Array Table) (values : List Value) :
    Accounts tables (tables.size + 1) values (operands tables values) :=
  accounts_flattenAll _ values

/-- Flattening is too deep only where it would go on without an end. -/
theorem endless_of_tooDeep (h : operands tables values = .error .tooDeep) :
    Endless tables values := by
  have haccounts := accounts_operands tables values
  rw [h] at haccounts
  obtain ⟨first, chain, hfirst, hchain, hlen⟩ := haccounts
  obtain ⟨id, hpath, hcycle⟩ := exists_cycle_of_chain hchain (by omega)
  exact ⟨first, id, hfirst, hpath, hcycle⟩

/-- `operands` ends as flattening does. -/
theorem operands_eq_iff :
    operands tables values = r.mapError .fault ↔ Flattens tables values r := by
  have haccounts := accounts_operands tables values
  constructor
  · intro h
    rw [h] at haccounts
    cases r <;> exact haccounts
  · intro h
    match hrun : operands tables values, haccounts with
    | .ok texts, hflattens => rw [h.unique hflattens]; rfl
    | .error (.fault f), hflattens => rw [h.unique hflattens]; rfl
    | .error .tooDeep, _ => exact absurd (endless_of_tooDeep hrun) h.not_endless

theorem operands_tooDeep_iff :
    operands tables values = .error .tooDeep ↔ Endless tables values := by
  refine ⟨endless_of_tooDeep, fun h => ?_⟩
  match hrun : operands tables values with
  | .ok texts => exact absurd h (operands_eq_iff (r := .ok texts).1 hrun).not_endless
  | .error (.fault f) => exact absurd h (operands_eq_iff (r := .error f).1 hrun).not_endless
  | .error .tooDeep => rfl

/-- Without an end, tables nest to any depth. -/
theorem endless_iff_nests : Endless tables values ↔ ∀ depth, Nests tables depth values := by
  constructor
  · intro h depth
    rw [← flattenAll_tooDeep_iff]
    match hrun : flattenAll tables depth values, accounts_flattenAll depth values with
    | .ok texts, haccounts => exact absurd h (Flattens.not_endless haccounts)
    | .error (.fault f), haccounts => exact absurd h (Flattens.not_endless haccounts)
    | .error .tooDeep, _ => rfl
  · intro h
    exact operands_tooDeep_iff.1 (flattenAll_tooDeep_iff.2 (h _))

/-- Flattening comes to an end, or to a table that is inside of itself. -/
theorem exists_flattens_iff : (∃ r, Flattens tables values r) ↔ ¬ Endless tables values := by
  refine ⟨fun ⟨r, h⟩ => h.not_endless, fun h => ?_⟩
  match hrun : operands tables values with
  | .ok texts => exact ⟨.ok texts, operands_eq_iff.1 hrun⟩
  | .error (.fault f) => exact ⟨.error f, operands_eq_iff.1 hrun⟩
  | .error .tooDeep => exact absurd (endless_of_tooDeep hrun) h

end

/-! ## Matches -/

/-- A method compares the instances of a class with any number of operands. -/
def World.IsMatcher (w : World) (k cls : Nat) (operator : Selector.Operator) : Prop :=
  ∃ b, w.registry.bound[k]? = some b ∧ b.cls = cls ∧ b.method.arity = .any ∧
    b.method.body = .selector (.compare operator)

section

variable {w : World} {k depth : Nat} {key : Instance} {operator : Selector.Operator}
variable {path : List String} {sink : Sink} {values : List Value}

theorem run_callAt_matcher [Library] (hk : w.IsMatcher k key.cls operator) :
    (callAt (depth + 1) (.host (.method k)) (.instance key :: values)).run w =
      (Selectors.compare key operator values >>= fun _ => pure []).run w := by
  obtain ⟨b, hbound, hcls, harity, hbody⟩ := hk
  have hkind : b.method.body.kind = .ofInstance := by
    rw [hbody]
    rfl
  rw [run_callAt_method hbound hcls hkind (by rw [harity]; trivial), hbody]
  rfl

/-- A match flattens its operands first. -/
theorem run_compare_flatten (hkey : w.registry.lookup key = .ok (.key path sink)) :
    (Selectors.compare key operator values).run w =
      (Selectors.liftFlatten (operands w.tables values) >>= fun texts => do
        let e ← Run.liftRefusal (Expression.make? (Text.join "." path) operator texts)
        Selectors.report sink e).run w :=
  (Run.run_bind_of_ok (Run.run_lookup hkey)).trans (Run.run_bind_of_ok Run.run_get)

/-- A match whose operands flattening has no end on ends the process. -/
theorem run_compare_endless (hkey : w.registry.lookup key = .ok (.key path sink))
    (h : Endless w.tables values) :
    (Selectors.compare key operator values).run w = .error .overflowed w := by
  rw [run_compare_flatten hkey, operands_tooDeep_iff.2 h]
  rfl

/-- Any other match comes to an end of its own. -/
theorem run_compare_flattens (hkey : w.registry.lookup key = .ok (.key path sink))
    {r : Except Fault (List String)} (h : Flattens w.tables values r) (w' : World) :
    (Selectors.compare key operator values).run w ≠ .error .overflowed w' := by
  rw [run_compare_flatten hkey, operands_eq_iff.2 h]
  cases r with
  | error f => nofun
  | ok texts =>
    have htexts : (Selectors.liftFlatten (Except.mapError .fault (.ok texts))).run w =
        .ok texts w := rfl
    rw [Run.run_bind_of_ok htexts]
    cases Expression.make? (Text.join "." path) operator texts with
    | error refusal => nofun
    | ok e => cases sink <;> nofun

theorem run_matcher_overflowed_iff [Library] (hk : w.IsMatcher k key.cls operator)
    (hkey : w.registry.lookup key = .ok (.key path sink)) (depth : Nat) (values : List Value) :
    (callAt (depth + 1) (.host (.method k)) (.instance key :: values)).run w =
        .error .overflowed w ↔ Endless w.tables values := by
  rw [run_callAt_matcher hk, EStateM.run_bind]
  constructor
  · intro h
    by_contra hends
    obtain ⟨r, hr⟩ := exists_flattens_iff.2 hends
    cases hrun : (Selectors.compare key operator values).run w with
    | ok _ w' =>
      rw [hrun] at h
      cases h
    | error e w' =>
      rw [hrun] at h
      cases h
      exact run_compare_flattens hkey hr w hrun
  · intro h
    rw [run_compare_endless hkey h]

/-- A protected call of what overflows overflows. -/
theorem run_protectedCall_overflowed [Library] {f : Value} {args : List Value}
    (h : (callAt depth f args).run w = .error .overflowed w) :
    (callAt (depth + 1) (.host .protectedCall) (f :: args)).run w = .error .overflowed w := by
  have hcall : (do return .bool true :: (← callAt depth f args) : Run (List Value)) w =
      .error .overflowed w := by
    show (callAt depth f args >>= fun vs => pure (.bool true :: vs)).run w = _
    rw [EStateM.run_bind, h]
  show EStateM.tryCatch _ _ w = _
  unfold EStateM.tryCatch
  rw [hcall]
  rfl

end

/-- An evaluation that overflows is the last one of its session. -/
theorem perform_overflowed [Library] {α : Type} {act : Run α} {w w' : World}
    (h : act.run w = .error .overflowed w') :
    Session.perform ⟨w⟩ act = (.error .overflow, ⟨w'⟩) := by
  have hact : (do return .ok (← act) : Run (Except Fault α)) w = .error .overflowed w' := by
    show (act >>= fun v => pure (Except.ok v)).run w = _
    rw [EStateM.run_bind, h]
  have hguarded : (tryCatch (do return .ok (← act)) fun e => do
      return .error (← Session.faultOfHalt e) : Run (Except Fault α)).run w =
        .ok (.error .overflow) w' := by
    show EStateM.tryCatch _ _ w = _
    unfold EStateM.tryCatch
    rw [hact]
    rfl
  rw [Session.perform]
  simp only [hguarded]

/-- **Flattening ends unless it comes to a table inside of itself.** Whatever tables a script has
made, wherever these are taken to end, and whatever operands it passes: flattening comes to an end,
with texts or with a fault, exactly if it comes to no table that is inside of itself, and `operands`
ends in the same way. Where the stack has room for so many calls and no more, flattening runs out of
it exactly where tables nest deeper, which they do to any depth where it has no end. Where the stack
is as large as it has to be, a match on a key overflows it exactly where flattening has no end, and
a protected call does not catch that. -/
theorem flattening_ends_iff [Library] (tables : Array Table) (values : List Value) :
    ((∃ r, Flattens tables values r) ↔ ¬ Endless tables values) ∧
    (∀ r, Flattens tables values r ↔ operands tables values = r.mapError .fault) ∧
    (∀ depth, flattenAll tables depth values = .error .tooDeep ↔ Nests tables depth values) ∧
    (Endless tables values ↔ ∀ depth, Nests tables depth values) ∧
    ∀ (w : World) (k depth : Nat) (key : Instance) (operator : Selector.Operator)
      (path : List String) (sink : Sink), w.tables = tables → w.IsMatcher k key.cls operator →
        w.registry.lookup key = .ok (.key path sink) →
          ((callAt (depth + 1) (.host (.method k)) (.instance key :: values)).run w =
            .error .overflowed w ↔ Endless tables values) ∧
          (Endless tables values →
            (callAt (depth + 2) (.host .protectedCall)
              (.host (.method k) :: .instance key :: values)).run w = .error .overflowed w) := by
  refine ⟨exists_flattens_iff, fun r => operands_eq_iff.symm, fun _ => flattenAll_tooDeep_iff,
    endless_iff_nests, ?_⟩
  rintro w k depth key operator path sink rfl hk hkey
  have hiff := run_matcher_overflowed_iff hk hkey depth values
  exact ⟨hiff, fun h => run_protectedCall_overflowed (hiff.2 h)⟩

/-! ## A table in itself -/

/-- A script that compares a key with a table that it has put into itself, in a protected call:
`t = {}; t[1] = t; pcall(kube.LabelKey.eq, kube.LabelKey.new("app"), t); return "ended"`. -/
def comparingItself : List Stmt :=
  [.assign "t" (.list []), .assignIndex (.var "t") (.int 1) (.var "t"),
    .run (.call (.var "pcall")
      [.index (.index (.var "kube") (.text "LabelKey")) (.text "eq"),
        .call (.index (.index (.var "kube") (.text "LabelKey")) (.text "new")) [.text "app"],
        .var "t"]),
    .ret [.text "ended"]]

/-- What the script does before it calls, and what it calls. -/
def beforeComparing [Library] : Run (Value × List Value) := do
  let t := firstOf (← results callValue [] (.list []))
  Locals.set [] "t" t
  let o := firstOf (← results callValue [] (.var "t"))
  let k := firstOf (← results callValue [] (.int 1))
  let v := firstOf (← results callValue [] (.var "t"))
  assignIndex o k v
  let f := firstOf (← results callValue [] (.var "pcall"))
  let args ← valuesOf callValue []
    [.index (.index (.var "kube") (.text "LabelKey")) (.text "eq"),
      .call (.index (.index (.var "kube") (.text "LabelKey")) (.text "new")) [.text "app"],
      .var "t"]
  return (f, args)

/-- A protected call of a matcher on a key, with a table that has only itself in it. -/
def comparesItself : EStateM.Result Halt World (Value × List Value) → Bool
  | .ok (.host .protectedCall, [.host (.method k), .instance key, .table id]) w =>
    decide ((tableOf w.tables id).hasOtherKeys = false ∧
      (tableOf w.tables id).sequence = [.table id]) &&
    (match w.registry.bound[k]? with
      | some b => decide (b.cls = key.cls ∧ b.method = ⟨"eq", .any, .selector (.compare .equals)⟩)
      | none => false) &&
    match w.registry.lookup key with
    | .ok (.key _ _) => true
    | _ => false
  | _ => false

open Library.Standard

theorem comparesItself_before :
    comparesItself (beforeComparing.run (Engine.installed default)) = true := by
  decide +kernel

theorem endless_of_own {tables : Array Table} {id : Nat}
    (hkeys : (tableOf tables id).hasOtherKeys = false)
    (hitems : (tableOf tables id).sequence = [.table id]) : Endless tables [.table id] := by
  have hopens : Opens tables id id := ⟨hkeys, [], [], [], hitems, .nil⟩
  exact ⟨id, id, ⟨[], [], [], rfl, .nil⟩, .refl, .single hopens⟩

theorem overflows_of_comparesItself [Library]
    {result : EStateM.Result Halt World (Value × List Value)} (h : comparesItself result = true) :
    ∃ f args w, result = .ok (f, args) w ∧ (callValue f args).run w = .error .overflowed w := by
  unfold comparesItself at h
  split at h
  · next k key id w =>
    simp only [Bool.and_eq_true, decide_eq_true_eq] at h
    obtain ⟨⟨⟨hkeys, hitems⟩, hbound⟩, hlookup⟩ := h
    refine ⟨_, _, w, rfl, ?_⟩
    split at hbound
    · next b hb =>
      obtain ⟨hcls, hmethod⟩ := of_decide_eq_true hbound
      split at hlookup
      · next path sink hkey =>
        have hk : w.IsMatcher k key.cls .equals := ⟨b, hb, hcls, by rw [hmethod], by rw [hmethod]⟩
        have hcall := (run_matcher_overflowed_iff hk hkey 1998 _).2 (endless_of_own hkeys hitems)
        exact run_protectedCall_overflowed hcall
      · cases hlookup
    · cases hbound
  · cases h

/-- Flattening such a table has no end, and the script takes the session with it. -/
theorem comparing_itself_overflows :
    (¬ ∃ r, Flattens #[.ofList [.table 0]] [.table 0] r) ∧
      (Session.evaluate ⟨Engine.installed default⟩ (.block comparingItself)).1 =
        .error .overflow := by
  constructor
  · rintro ⟨r, h⟩
    exact h.not_endless (endless_of_own (by decide) (by decide))
  · have hstraight : runChunk callValue (.block comparingItself) = (do
        let (f, args) ← beforeComparing
        let _ ← callValue f args
        return [.text "ended"]) := by
      simp only [runChunk, comparingItself, beforeComparing, Chunk.expression?, runBlock, results,
        valuesOf, bind_assoc, pure_bind, Option.getD_some]
    obtain ⟨f, args, w, hbefore, hcall⟩ := overflows_of_comparesItself comparesItself_before
    have hrun : (runChunk callValue (.block comparingItself)).run (Engine.installed default) =
        .error .overflowed w := by
      rw [hstraight, Run.run_bind_of_ok hbefore]
      show (callValue f args >>= fun _ => pure [Value.text "ended"]).run w = _
      rw [EStateM.run_bind, hcall]
    rw [Session.evaluate, perform_overflowed hrun]

end ClusterScript.Script
