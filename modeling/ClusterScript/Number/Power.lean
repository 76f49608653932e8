/-!
# Powers of two and ten

Exact powers of the two bases that numbers are written in, and the bounds of
machine integers.
-/
namespace ClusterScript.Power

def two (n : Nat) : Nat := Nat.pow 2 n

def ten (n : Nat) : Nat := Nat.pow 10 n

/-- The least power of two above every signed integer of 64 bits. -/
def signedLimit : Int := 0x8000000000000000

end ClusterScript.Power
