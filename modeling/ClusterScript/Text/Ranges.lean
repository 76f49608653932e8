/-!
# Sets of code points

A set of code points is written as the ascending list of its borders: it
starts at the first, ends before the second, starts again at the third.
-/
namespace ClusterScript.Text

/-- Membership: an odd number of borders lies at or below the code point. -/
def within (borders : Array Nat) (n : Nat) : Bool :=
  borders.foldl (fun inside b => if b ≤ n then !inside else inside) false

end ClusterScript.Text
