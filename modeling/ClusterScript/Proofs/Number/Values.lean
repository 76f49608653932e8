import ClusterScript.Number.Binary64
import Mathlib

/-!
# What floats stand for

A finite float stands for `m * 2^q`, up to its sign. It is an integer if `q`
is not negative, or if the last `-q` bits of `m` are zero.

* `value?`: the number that a float stands for.
* `toInt?_eq_some_iff`: the whole floats are those that stand for integers.
-/
namespace ClusterScript.Binary64

/-- The number that a finite float stands for. -/
def value? (x : Binary64) : Option ℚ :=
  match x.reading with
  | .finite negative m q => some ((if negative then -1 else 1) * (m * 2 ^ q))
  | _ => none

section

variable {m : Nat} {q n : Int}

/-- A magnitude with a negative exponent is an integer if that many bits of it are zero. -/
theorem magnitude_eq_iff (hq : q < 0) (r : ℚ) :
    (m : ℚ) * 2 ^ q = r ↔ (m : ℚ) = r * 2 ^ (-q).toNat := by
  obtain ⟨k, rfl⟩ : ∃ k : Nat, q = -k := ⟨(-q).toNat, by omega⟩
  rw [zpow_neg, zpow_natCast, mul_inv_eq_iff_eq_mul₀ (by positivity), Int.neg_neg,
    Int.toNat_natCast]

/-- A magnitude is its integer part where nothing is cut off. -/
theorem magnitude_eq_truncated (h : ¬ (q < 0 ∧ truncated m q * Power.two (-q).toNat ≠ m)) :
    (m : ℚ) * 2 ^ q = truncated m q := by
  by_cases hq : q < 0
  · have hm : truncated m q * 2 ^ (-q).toNat = m := not_not.1 fun hne => h ⟨hq, hne⟩
    rw [magnitude_eq_iff hq]
    exact_mod_cast hm.symm
  · obtain ⟨k, rfl⟩ : ∃ k : Nat, q = k := ⟨q.toNat, by omega⟩
    rw [truncated, if_neg hq, zpow_natCast, Int.toNat_natCast, Nat.cast_mul]
    exact congrArg _ (Nat.cast_pow 2 k).symm

/-- Nothing is cut off from a magnitude that is an integer. -/
theorem not_cut_of_magnitude (h : (m : ℚ) * 2 ^ q = n) :
    ¬ (q < 0 ∧ truncated m q * Power.two (-q).toNat ≠ m) := by
  rintro ⟨hq, hcut⟩
  rw [magnitude_eq_iff hq] at h
  have hm : (m : Int) = n * 2 ^ (-q).toNat := by exact_mod_cast h
  have hdvd : 2 ^ (-q).toNat ∣ m := by
    rw [← Int.natCast_dvd_natCast, hm]
    exact ⟨n, by push_cast; ring⟩
  rw [truncated, if_pos hq] at hcut
  exact hcut (Nat.div_mul_cancel hdvd)

theorem negative_of_reading {x : Binary64} {negative : Bool}
    (h : x.reading = .finite negative m q) : x.negative = negative := by
  simp only [reading] at h
  split at h
  · split at h <;> cases h
  · split at h <;> cases h <;> rfl

/-- The sign and the magnitude of an integer that a float stands for. -/
theorem signed_whole {negative : Bool} {i : Int} {v : ℚ} (hv : 0 ≤ v)
    (h : (if negative then (-1 : ℚ) else 1) * v = i) (hzero : i = 0 → negative = false) :
    v = i.natAbs ∧ negative = decide (i < 0) := by
  rw [Nat.cast_natAbs]
  cases negative with
  | false =>
    rw [if_neg Bool.false_ne_true, one_mul] at h
    have hi : 0 ≤ i := by
      rw [h] at hv
      exact_mod_cast hv
    rw [abs_of_nonneg hi, h]
    exact ⟨rfl, by simpa using hi⟩
  | true =>
    rw [if_pos rfl, neg_one_mul] at h
    have hle : i ≤ 0 := by
      have : (i : ℚ) ≤ 0 := by linarith
      exact_mod_cast this
    have hi : i < 0 := lt_of_le_of_ne hle fun heq => by cases hzero heq
    rw [abs_of_neg hi]
    exact ⟨by push_cast; linarith, by simpa using hi⟩

end

/-- Whole floats are those that stand for integers. -/
theorem toInt?_eq_some_iff {x : Binary64} {n : Int} :
    x.toInt? = some n ↔ x.value? = some (n : ℚ) := by
  unfold toInt? value?
  cases x.reading with
  | nan => simp
  | infinite => simp
  | finite negative m q =>
    simp only [Option.some.injEq]
    have hvalue : (if negative then (-1 : ℚ) else 1) * (m * 2 ^ q) = n ↔
        (m : ℚ) * 2 ^ q = ((if negative then -n else n : Int) : ℚ) := by
      cases negative with
      | false => simp
      | true => simp [neg_eq_iff_eq_neg]
    have hinteger : (if negative then -(truncated m q : Int) else truncated m q) = n ↔
        (truncated m q : ℚ) = ((if negative then -n else n : Int) : ℚ) := by
      rw [← Int.cast_natCast (R := ℚ), Int.cast_inj]
      cases negative with
      | false => simp
      | true => simp [neg_eq_iff_eq_neg]
    rw [hvalue]
    by_cases hcut : q < 0 ∧ truncated m q * Power.two (-q).toNat ≠ m
    · rw [if_pos hcut]
      exact ⟨nofun, fun h => absurd hcut (not_cut_of_magnitude h)⟩
    · rw [if_neg hcut, magnitude_eq_truncated hcut, ← hinteger, Option.some.injEq]

end ClusterScript.Binary64
