import ClusterScript.Number.Binary64

/-!
# Decimal digits of a number

A finite magnitude is the quotient of two natural numbers. Three selections
of its decimal digits are made, each by exact arithmetic:

* `shortest`: the fewest digits that read back to the same number, and of
  those the nearest ones;
* `significant`: a given number of digits, ties to the even digit;
* `fixed`: a given number of places after the point, ties to the even digit.

`Layout` then places them: `positional`, or with an exponent.
-/
namespace ClusterScript.Decimal

/-- `digits * 10^exponent`. -/
structure Digits where
  digits : Nat
  exponent : Int
deriving DecidableEq, Repr

/-- `a / b < 10^k`. -/
def belowPower (a b : Nat) (k : Int) : Bool :=
  if k < 0 then a * Power.ten (-k).toNat < b else a < b * Power.ten k.toNat

/-- The least `k` with `a / b < 10^k`; the binary logarithm places it within a few steps. -/
def scale (a b : Nat) : Int :=
  let guess := ((a.log2 : Int) - b.log2 - 1) * 30103 / 100000 - 1
  ([guess, guess + 1, guess + 2, guess + 3].find? (belowPower a b)).getD (guess + 4)

/-- `a / b` counted in units of `10^k`. -/
def inPowers (a b : Nat) (k : Int) : Nat × Nat :=
  if k < 0 then (a * Power.ten (-k).toNat, b) else (a, b * Power.ten k.toNat)

/-- Moves trailing zeros of the digits into the exponent, at most `fuel` of them. -/
def strip : Nat → Digits → Digits
  | 0, d => d
  | fuel + 1, d =>
    if d.digits ≠ 0 ∧ d.digits % 10 = 0 then strip fuel ⟨d.digits / 10, d.exponent + 1⟩ else d

/-- The reals that round to `m * 2^q`, in units of a quarter of `2^q`: both ends, and whether
they belong to it. The gap below a power of two is half as wide. -/
structure Basin where
  low : Nat
  high : Nat
  closed : Bool

def basin (m : Nat) (q : Int) : Basin :=
  { low := if m = Binary64.leadingBit ∧ -1074 < q then 4 * m - 1 else 4 * m - 2
    high := 4 * m + 2
    closed := m % 2 = 0 }

/-- Whether `d * 10^g` lies in the basin, `unit` being the quotient one quarter stands for. -/
def Basin.holds (b : Basin) (unit : Nat × Nat) (d : Nat) (g : Int) : Bool :=
  let (n, e) := if g < 0 then (d, Power.ten (-g).toNat) else (d * Power.ten g.toNat, 1)
  let x := n * unit.2
  let lo := b.low * unit.1 * e
  let hi := b.high * unit.1 * e
  if b.closed then lo ≤ x && x ≤ hi else lo < x && x < hi

/-- The hit with `n` digits, the nearer of two; a tie goes to the even digit. -/
def hit? (m : Nat) (q : Int) (k : Int) (n : Nat) : Option Digits :=
  let unit := Binary64.magnitude 1 (q - 2)
  let g := k - n
  let (a, b) := inPowers (4 * m * unit.1) unit.2 g
  let d := a / b
  let region := basin m q
  match region.holds unit d g, region.holds unit (d + 1) g with
  | true, true => some ⟨Binary64.roundHalfEven a b, g⟩
  | true, false => some ⟨d, g⟩
  | false, true => some ⟨d + 1, g⟩
  | false, false => none

/-- The fewest digits that read back to `m * 2^q`, the nearest of them. -/
def shortest (m : Nat) (q : Int) : Digits :=
  if m = 0 then ⟨0, 0⟩
  else
    let (a, b) := Binary64.magnitude m q
    let k := scale a b
    let found := (List.range 17).findSome? fun i => hit? m q k (i + 1)
    strip 400 (found.getD ⟨a * Power.ten 1100 / b, -1100⟩)

/-- `n` significant digits of `a / b`, a tie going to the even digit. -/
def significant (n : Nat) (a b : Nat) : Digits :=
  if a = 0 then ⟨0, 0⟩
  else
    let g := scale a b - n
    let (c, d) := inPowers a b g
    ⟨Binary64.roundHalfEven c d, g⟩

/-- `a / b` in units of `10^(-places)`, a tie going to the even unit. -/
def fixed (places : Nat) (a b : Nat) : Nat :=
  Binary64.roundHalfEven (a * Power.ten places) b

/-! ## Layout -/

def zeros (n : Nat) : String := String.ofList (List.replicate n '0')

/-- The units of `10^(-places)` with a point, `places` digits after it. -/
def pointed (units places : Nat) : String :=
  let s := toString units
  let padded := zeros (places + 1 - s.length) ++ s
  let whole := padded.toList.take (padded.length - places)
  let part := padded.toList.drop (padded.length - places)
  if places = 0 then s else String.ofList whole ++ "." ++ String.ofList part

/-- Without exponent; `point` asks for `.0` on a whole number. -/
def positional (d : Digits) (point : Bool) : String :=
  if d.exponent < 0 then pointed d.digits (-d.exponent).toNat
  else toString d.digits ++ zeros d.exponent.toNat ++ if point then ".0" else ""

/-- The number of digits before the point, counted negatively for zeros after it. -/
def Digits.leading (d : Digits) : Int := (toString d.digits).length + d.exponent

/-- One digit, the others after a point, and the exponent; `sign` is written before an
exponent that is not negative and `width` is its least number of digits. -/
def scientific (d : Digits) (sign : String) (width : Nat) : String :=
  let s := toString d.digits
  let e := d.leading - 1
  let ds := toString e.natAbs
  let mantissa := pointed d.digits (s.length - 1)
  mantissa ++ "e" ++ (if e < 0 then "-" else sign) ++ zeros (width - ds.length) ++ ds

/-- How floating-point numbers of a data format are written. -/
structure Layout where
  /-- The fewest leading positions written without an exponent, exclusive. -/
  lowest : Int
  /-- The most leading positions written without an exponent. -/
  highest : Int
  /-- What stands before an exponent that is not negative. -/
  plus : String

/-- Writes the shortest digits in a layout, whole numbers with `.0`. -/
def Layout.write (l : Layout) (x : Binary64) : String :=
  match x.reading with
  | .finite neg m q =>
    let d := shortest m q
    let body :=
      if m = 0 then "0.0"
      else if l.lowest < d.leading ∧ d.leading ≤ l.highest then positional d true
      else scientific d l.plus 1
    (if neg then "-" else "") ++ body
  | .infinite neg => if neg then "-.inf" else ".inf"
  | .nan _ => ".nan"

/-- The shortest digits without any exponent and without `.0`. -/
def plain (x : Binary64) : String :=
  match x.reading with
  | .finite neg m q => (if neg then "-" else "") ++ positional (shortest m q) false
  | .infinite neg => if neg then "-inf" else "inf"
  | .nan _ => "NaN"

/-- Six places after the point. -/
def sixPlaces (x : Binary64) : String :=
  match x.reading with
  | .finite neg m q =>
    let (a, b) := Binary64.magnitude m q
    (if neg then "-" else "") ++ pointed (fixed 6 a b) 6
  | .infinite neg => if neg then "-inf" else "inf"
  | .nan _ => "NaN"

/-- Fourteen significant digits without trailing zeros; an exponent of at least two digits
below `10^(-4)` and from `10^14` on. A result that looks whole gets `.0`. -/
def fourteenDigits (x : Binary64) : String :=
  match x.reading with
  | .finite neg m q =>
    let (a, b) := Binary64.magnitude m q
    let d := strip 400 (significant 14 a b)
    let body :=
      if m = 0 then "0.0"
      else if -4 < d.leading ∧ d.leading ≤ 14 then positional d true
      else scientific d "+" 2
    (if neg then "-" else "") ++ body
  | .infinite neg => if neg then "-inf" else "inf"
  | .nan neg => if neg then "-nan" else "nan"

end ClusterScript.Decimal
