/-!
# Arities

How many arguments a method takes, the receiver not counted.

* `Arity.Admits`: the numbers of arguments an arity allows.
* `Arity.describe`: its text in messages.
-/
namespace ClusterScript

/-- `Arity`: how many arguments a method takes. -/
inductive Arity
  | exact (n : Nat)
  /-- Both bounds included; with the bounds the wrong way round nothing fits. -/
  | range (lo hi : Nat)
  | atLeast (n : Nat)
  | any
deriving DecidableEq, Repr, Inhabited

namespace Arity

/-- `check`: whether so many arguments are allowed. -/
def Admits : Arity → Nat → Prop
  | .exact n, given => given = n
  | .range lo hi, given => lo ≤ given ∧ given ≤ hi
  | .atLeast n, given => n ≤ given
  | .any, _ => True

instance (a : Arity) (given : Nat) : Decidable (a.Admits given) := by
  cases a <;> unfold Admits <;> infer_instance

def describe : Arity → String
  | .exact n => toString n
  | .range lo hi => s!"{lo}..{hi}"
  | .atLeast n => s!"{n}+"
  | .any => "any"

end Arity

end ClusterScript
