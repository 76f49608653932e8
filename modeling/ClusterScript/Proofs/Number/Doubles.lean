import ClusterScript.Proofs.Json.NumberLeaves
import ClusterScript.Proofs.Number.Nearest

/-!
# The double values of numbers

A number of a tree is an integer of 64 bits or a float. Its double value is
the float nearest to it, which a float is of itself.

* `Number.IsDouble`: a float is the double value of a number.
* `Number.isDouble_toBinary64`: `toBinary64` finds it.
* `Number.isFinite_toBinary64`: it is finite.
-/
namespace ClusterScript

open Binary64 (ofInt rounded)

theorem WholeNumber.natAbs_lt (n : WholeNumber) : n.val.natAbs < 2 ^ 64 := by
  have hlower := n.lower
  have hupper := n.upper
  omega

namespace Binary64

theorem isFinite_of_value? {x : Binary64} {r : ℚ} (h : x.value? = some r) :
    x.isFinite = true := by
  rw [isFinite, decide_eq_true_eq]
  intro hexponent
  simp only [value?, reading, if_pos hexponent] at h
  split at h
  · next heq => split at heq <;> cases heq
  · cases h

theorem isFinite_ofInt {i : Int} (h : i.natAbs < 2 ^ 64) : (ofInt i).isFinite = true :=
  isFinite_of_value? (value?_ofInt h)

/-- The sign of an integer stays; zero has none. -/
theorem negative_ofInt {i : Int} (h : i.natAbs < 2 ^ 64) :
    (ofInt i).negative = decide (i < 0) := by
  rcases eq_or_ne i 0 with rfl | hi
  · decide
  · have hvalue := value?_ofInt h
    unfold value? at hvalue
    split at hvalue
    · next negative m q hreading =>
      have hsigned := signed_whole (by positivity) (Option.some.inj hvalue)
        fun hzero => absurd (rounded_eq_zero.1 hzero) hi
      rw [negative_of_reading hreading, hsigned.2, decide_eq_decide]
      exact rounded_neg_iff
    · cases hvalue

end Binary64

/-- A float is the double value of a number: no float is nearer to an integer, and zero has no
sign. -/
def Number.IsDouble : Number → Binary64 → Prop
  | .whole n, x => (∃ s, x.Rounds n.val s) ∧ x.negative = decide (n.val < 0)
  | .float x, y => y = x

theorem Number.isDouble_toBinary64 (n : Number) : n.IsDouble n.toBinary64 := by
  cases n with
  | whole n => exact ⟨⟨_, Binary64.ofInt_rounds n.natAbs_lt⟩, Binary64.negative_ofInt n.natAbs_lt⟩
  | float x => rfl

theorem Number.isFinite_toBinary64 {n : Number} (h : (Json.num n).Bounded) :
    n.toBinary64.isFinite = true := by
  cases n with
  | whole n => exact Binary64.isFinite_ofInt n.natAbs_lt
  | float x => exact h

end ClusterScript
