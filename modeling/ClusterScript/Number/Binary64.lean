import ClusterScript.Number.Power

/-!
# Binary64 numbers by their bits

A script number that is not an integer, and every number of a JSON text with
a point or an exponent, is a 64-bit binary floating-point number. It is kept
as its bit pattern; all operations are exact integer arithmetic on the
decoded magnitude `m * 2^q`, so closed instances compute in the kernel.

* `Binary64.reading`: the value a bit pattern stands for.
* `Binary64.ofRatio`: the nearest number to a quotient, ties to even.
* `Binary64.scaleTen`: one multiplication or division by a power of ten.
* `Binary64.toInt64`: truncation toward zero, clamped to 64 bits.
-/
namespace ClusterScript

/-- A 64-bit binary floating-point number, as its bit pattern. -/
structure Binary64 where
  bits : UInt64
deriving DecidableEq, Inhabited, Repr

namespace Binary64

/-- The value of a bit pattern; a finite one is `m * 2^q`, up to its sign. -/
inductive Reading
  | nan (negative : Bool)
  | infinite (negative : Bool)
  | finite (negative : Bool) (m : Nat) (q : Int)
deriving DecidableEq, Repr

/-- The weight of the sign bit. -/
def signBit : Nat := Power.two 63

/-- The weight of the lowest exponent bit; normal significands start there. -/
def leadingBit : Nat := Power.two 52

/-- The sign. -/
def negative (x : Binary64) : Bool := signBit ≤ x.bits.toNat

/-- The biased exponent, eleven bits. -/
def exponentField (x : Binary64) : Nat := x.bits.toNat / leadingBit % 2048

/-- The stored fraction, fifty-two bits. -/
def fractionField (x : Binary64) : Nat := x.bits.toNat % leadingBit

def reading (x : Binary64) : Reading :=
  let e := x.exponentField
  let f := x.fractionField
  if e = 2047 then
    if f = 0 then .infinite x.negative else .nan x.negative
  else if e = 0 then .finite x.negative f (-1074)
  else .finite x.negative (leadingBit + f) (e - 1075)

/-- Positive infinity or, with the sign, negative infinity. -/
def infinity (negative : Bool) : Binary64 :=
  ⟨if negative then 0xFFF0000000000000 else 0x7FF0000000000000⟩

def zero (negative : Bool) : Binary64 :=
  ⟨if negative then 0x8000000000000000 else 0⟩

def isNaN (x : Binary64) : Bool :=
  x.exponentField = 2047 && x.fractionField ≠ 0

def isFinite (x : Binary64) : Bool := x.exponentField ≠ 2047

def isZero (x : Binary64) : Bool := x.exponentField = 0 && x.fractionField = 0

/-! ## Rounding -/

/-- The natural number nearest to `n / d`, the even one of two. -/
def roundHalfEven (n d : Nat) : Nat :=
  let t := n / d
  let r := n % d
  if 2 * r < d then t
  else if d < 2 * r then t + 1
  else if t % 2 = 0 then t
  else t + 1

/-- `n / d` counted in units of `2^q`. -/
def inUnits (n d : Nat) (q : Int) : Nat × Nat :=
  if q < 0 then (n * Power.two (-q).toNat, d) else (n, d * Power.two q.toNat)

/-- The exponent at which `n / d` has fifty-three binary digits, not below the smallest one. -/
def unitExponent (n d : Nat) : Int :=
  let guess : Int := (n.log2 : Int) - d.log2 - 52
  let (a, b) := inUnits n d guess
  let q := if a / b < leadingBit then guess - 1 else guess
  if q < -1074 then -1074 else q

/-- Packs a rounded magnitude `m * 2^q` with `m ≤ 2^53`; a carry moves into the exponent. -/
def pack (negative : Bool) (m : Nat) (q : Int) : Binary64 :=
  let magnitude :=
    if m < leadingBit then m else (q + 1074).toNat * leadingBit + m
  if magnitude < 2047 * leadingBit then
    ⟨UInt64.ofNat (magnitude + if negative then signBit else 0)⟩
  else infinity negative

/-- The number nearest to `n / d`, ties to even. -/
def ofRatio (negative : Bool) (n d : Nat) : Binary64 :=
  if n = 0 then zero negative
  else
    let q := unitExponent n d
    let (a, b) := inUnits n d q
    pack negative (roundHalfEven a b) q

def ofNat (n : Nat) : Binary64 := ofRatio false n 1

def ofInt (i : Int) : Binary64 := ofRatio (i < 0) i.natAbs 1

/-- The magnitude of a finite number as a quotient. -/
def magnitude (m : Nat) (q : Int) : Nat × Nat :=
  if q < 0 then (m, Power.two (-q).toNat) else (m * Power.two q.toNat, 1)

/-- The product with `10^k` for `0 ≤ k`, the quotient by `10^(-k)` otherwise, rounded once. -/
def scaleTen (x : Binary64) (k : Int) : Binary64 :=
  match x.reading with
  | .finite neg m q =>
    let (a, b) := magnitude m q
    match (ofNat (Power.ten k.natAbs)).reading with
    | .finite _ pm pq =>
      let (c, d) := magnitude pm pq
      if k < 0 then ofRatio neg (a * d) (b * c) else ofRatio neg (a * c) (b * d)
    | _ => x
  | _ => x

def negate (x : Binary64) : Binary64 :=
  ⟨UInt64.ofNat ((x.bits.toNat + signBit) % (2 * signBit))⟩

/-! ## Comparison and truncation -/

/-- The integer part of a finite magnitude. -/
def truncated (m : Nat) (q : Int) : Nat :=
  if q < 0 then m / Power.two (-q).toNat else m * Power.two q.toNat

/-- The integer a finite number without a fractional part stands for. -/
def toInt? (x : Binary64) : Option Int :=
  match x.reading with
  | .finite neg m q =>
    let t := truncated m q
    if q < 0 ∧ t * Power.two (-q).toNat ≠ m then none
    else some (if neg then -(t : Int) else t)
  | _ => none

/-- Truncates toward zero and clamps to 64 bits; no number becomes zero. -/
def toInt64 (x : Binary64) : Int64 :=
  match x.reading with
  | .nan _ => 0
  | .infinite neg => if neg then Int64.minValue else Int64.maxValue
  | .finite neg m q =>
    let t : Int := truncated m q
    let i := if neg then -t else t
    if i < -Power.signedLimit then Int64.minValue
    else if Power.signedLimit ≤ i then Int64.maxValue
    else Int64.ofInt i

/-- Equality of values: the two zeros are equal, and a NaN differs from everything. -/
def equal (x y : Binary64) : Bool :=
  !x.isNaN && !y.isNaN && (x.bits == y.bits || (x.isZero && y.isZero))

end Binary64

end ClusterScript
