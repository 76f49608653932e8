import ClusterScript.Proofs.Number.Values
import ClusterScript.Proofs.Script.ListViews
import ClusterScript.Proofs.Script.OperandTrees
import Mathlib

/-!
# The texts of whole numbers

A whole number becomes a text in operands of matches, in names of keys, in
labels, in the environment and in commands. Its text has the digits of the
nearest number that 64 bits hold. So integers, and floats within these limits,
keep their values; but all whole floats from `2^63` on share one text, and so
do all those below `-2^63`.

* `Value.Means`: a value is a whole number.
* `scalarText_whole`: the text of a whole number.
* `whole_numbers_clamped`: which numbers keep their value, and where texts go.
-/
namespace ClusterScript.Script

/-! ## Texts -/

/-- A value is this whole number: an integer, or a float that stands for one. -/
def Value.Means (v : Value) (n : Int) : Prop :=
  match v with
  | .int i => i.toInt = n
  | .float x => x.value? = some (n : ℚ)
  | _ => False

/-- The digits of the nearest number that 64 bits hold. -/
def digits64 (n : Int) : String := toString (clamp64 n)

section

variable {v u : Value} {n m : Int} {values : List Value} {numbers : List Int}

theorem clamp64_eq_iff : clamp64 n = n ↔ -0x8000000000000000 ≤ n ∧ n < 0x8000000000000000 := by
  have hlimit : Power.signedLimit = 0x8000000000000000 := rfl
  unfold clamp64
  split
  · omega
  · split <;> omega

theorem digits64_inj : digits64 n = digits64 m ↔ clamp64 n = clamp64 m := by
  show (clamp64 n).repr = (clamp64 m).repr ↔ _
  exact Int.repr_inj

/-- The digits are those of the number itself within 64 bits, and never beyond them. -/
theorem digits64_eq_iff :
    digits64 n = toString n ↔ -0x8000000000000000 ≤ n ∧ n < 0x8000000000000000 := by
  rw [← clamp64_eq_iff]
  show (clamp64 n).repr = n.repr ↔ _
  exact Int.repr_inj

theorem scalarText_whole (h : v.Means n) : scalarText v = .ok (some (digits64 n)) := by
  cases v with
  | int i =>
    have hi : i.toInt = n := h
    have hclamp : clamp64 n = i.toInt := by
      rw [← hi, clamp64_eq_iff]
      exact ⟨Int64.le_toInt i, Int64.toInt_lt i⟩
    rw [digits64, hclamp]
    rfl
  | float x =>
    have hx : x.toInt? = some n := Binary64.toInt?_eq_some_iff.2 h
    have hwhole : isWhole x = true := by
      rw [isWhole, hx]
      rfl
    rw [digits64, ← Binary64.toInt_toInt64 hx, scalarText, if_pos hwhole]
    rfl
  | _ => exact h.elim

theorem scalarText_whole_eq_iff (hv : v.Means n) (hu : u.Means m) :
    scalarText v = scalarText u ↔ clamp64 n = clamp64 m := by
  rw [scalarText_whole hv, scalarText_whole hu, Except.ok.injEq, Option.some.injEq, digits64_inj]

/-! ## Where the texts go -/

theorem isBlank_digit {c : Char} (h : c.isDigit = true) : Text.isBlank c = false := by
  have hrange : 48 ≤ c.toNat ∧ c.toNat ≤ 57 := Char.isDigit_iff_toNat.1 h
  simp only [Text.isBlank, Bool.or_eq_false_iff, Bool.and_eq_false_iff, decide_eq_false_iff_not,
    beq_eq_false_iff_ne]
  omega

theorem blank_digits64 (n : Int) : Text.blank (digits64 n) = false := by
  have hdigits : ∀ k : Nat, ∃ c ∈ k.repr.toList, Text.isBlank c = false := by
    intro k
    obtain ⟨c, hc⟩ := List.exists_mem_of_ne_nil _ (Nat.toDigits_ne_nil (n := k) (b := 10))
    rw [Nat.repr_eq_ofList_toDigits, String.toList_ofList]
    exact ⟨c, hc, isBlank_digit (Nat.isDigit_of_mem_toDigits (by decide) (by decide) hc)⟩
  have hsome : ∃ c ∈ (digits64 n).toList, Text.isBlank c = false := by
    show ∃ c ∈ (clamp64 n).repr.toList, _
    rw [Int.repr_eq_if]
    split
    · exact hdigits _
    · obtain ⟨c, hc, hblank⟩ := hdigits (-clamp64 n).toNat
      refine ⟨c, ?_, hblank⟩
      rw [String.toList_append]
      exact List.mem_append_right _ hc
  obtain ⟨c, hc, hblank⟩ := hsome
  rw [Text.blank, List.all_eq_false]
  exact ⟨c, hc, by simp [hblank]⟩

theorem Value.Means.not_table (h : v.Means n) (id : Nat) : v ≠ .table id := by
  rintro rfl
  exact h

theorem scalarTexts_whole (h : List.Forall₂ Value.Means values numbers) :
    values.map scalarText = (numbers.map digits64).map fun s => .ok (some s) := by
  induction h with
  | nil => rfl
  | cons hv _ ih => rw [List.map_cons, List.map_cons, List.map_cons, scalarText_whole hv, ih]

theorem exists_means (h : List.Forall₂ Value.Means values numbers) :
    ∀ v ∈ values, ∃ n, v.Means n := by
  induction h with
  | nil => simp
  | cons hv _ ih => exact List.forall_mem_cons.2 ⟨⟨_, hv⟩, ih⟩

theorem operands_whole (h : List.Forall₂ Value.Means values numbers) (tables : Array Table) :
    operands tables values = .ok (numbers.map digits64) := by
  have hleaves : ∀ v ∈ values, ∀ id, v ≠ .table id := by
    intro v hv
    obtain ⟨n, hn⟩ := exists_means h v hv
    exact hn.not_table
  have hfits : ∀ v ∈ values, ¬ v.Unfit := by
    intro v hv
    obtain ⟨n, hn⟩ := exists_means h v hv
    exact not_unfit (scalarText_whole hn) (blank_digits64 n)
  have hflattens : Flattens tables values (.ok (numbers.map digits64)) :=
    (flattens_leaves_iff hleaves).2 ⟨hfits, scalarTexts_whole h⟩
  exact operands_eq_iff.2 hflattens

theorem parseList_whole (h : List.Forall₂ Value.Means values numbers) (f : Fault) :
    ParamSchema.parseList f values = .ok (numbers.map digits64) := by
  induction h with
  | nil => rfl
  | cons hv _ ih =>
    rw [ParamSchema.parseList, ParamSchema.scalarOr, scalarText_whole hv, ih]
    rfl

/-- A whole number at the only key of a name is read by its digits. -/
theorem lookup_parseMap_whole {f : Fault} {entries : List (Value × Value)}
    {members : List (String × String)} {key : String}
    (hread : ParamSchema.parseMap f entries [] = .ok members)
    (hgives : Entries.Gives entries key v) (honly : ∀ u, Entries.Gives entries key u → u = v)
    (h : v.Means n) : members.lookup key = some (digits64 n) := by
  obtain ⟨-, htells⟩ := ParamSchema.parseMap_tells hread .nil
  obtain ⟨u, hu, s, htext, hlookup⟩ | ⟨hnone, -⟩ := htells key
  · cases honly u hu
    cases (scalarText_whole h).symm.trans htext
    exact hlookup
  · exact absurd hgives (hnone v)

theorem run_nameArgument_whole (h : v.Means n) (rest : List Value) (w : World) :
    (Selectors.nameArgument (v :: rest)).run w = .ok (some (digits64 n)) w := by
  rw [Selectors.nameArgument, scalarText_whole h]
  rfl

end

/-- **Whole numbers keep their value within 64 bits, and only there.** A whole number, an integer
or a float, becomes a text with the digits of the nearest number that 64 bits hold: those are its
own exactly if it is one of these. Two of them become the same text exactly if the same number of
64 bits is nearest to both, so within the limits texts tell numbers apart. This is what names of
keys and values at a name become, and operands and commands, one by one. -/
theorem whole_numbers_clamped (v : Value) (n : Int) (values : List Value) (numbers : List Int) :
    (v.Means n →
      scalarText v = .ok (some (digits64 n)) ∧
      (scalarText v = .ok (some (toString n)) ↔
        -0x8000000000000000 ≤ n ∧ n < 0x8000000000000000) ∧
      (∀ u m, Value.Means u m → (scalarText v = scalarText u ↔ clamp64 n = clamp64 m)) ∧
      (∀ (rest : List Value) (w : World),
        (Selectors.nameArgument (v :: rest)).run w = .ok (some (digits64 n)) w) ∧
      ∀ f entries members, ParamSchema.parseMap f entries [] = .ok members → ∀ key,
        Entries.Gives entries key v → (∀ u, Entries.Gives entries key u → u = v) →
          members.lookup key = some (digits64 n)) ∧
    (List.Forall₂ Value.Means values numbers → ∀ (tables : Array Table) (f : Fault),
      operands tables values = .ok (numbers.map digits64) ∧
        ParamSchema.parseList f values = .ok (numbers.map digits64)) := by
  refine ⟨fun h => ⟨scalarText_whole h, ?_, fun u m => scalarText_whole_eq_iff h,
    fun rest w => run_nameArgument_whole h rest w, ?_⟩,
    fun h tables f => ⟨operands_whole h tables, parseList_whole h f⟩⟩
  · rw [scalarText_whole h, Except.ok.injEq, Option.some.injEq, digits64_eq_iff]
  · intro f entries members hread key hgives honly
    exact lookup_parseMap_whole hread hgives honly h

/-- The floats of `2^63` and `2^64` have one text, which is the digits of neither. -/
theorem powers_share_text :
    Value.Means (.float ⟨0x43E0000000000000⟩) 0x8000000000000000 ∧
      Value.Means (.float ⟨0x43F0000000000000⟩) 0x10000000000000000 ∧
      scalarText (.float ⟨0x43E0000000000000⟩) = .ok (some "9223372036854775807") ∧
      scalarText (.float ⟨0x43F0000000000000⟩) = .ok (some "9223372036854775807") := by
  refine ⟨Binary64.toInt?_eq_some_iff.1 ?_, Binary64.toInt?_eq_some_iff.1 ?_, ?_, ?_⟩ <;> decide

end ClusterScript.Script
