import ClusterScript.Script.World

/-!
# Scalars as text

The text of a string, a number or a truth value, as operands of selectors and
values of parameters are written. A whole number is written by its digits; a
whole float goes through 64 bits on the way.
-/
namespace ClusterScript.Script

/-- A float without a fractional part. -/
def isWhole (x : Binary64) : Bool := x.toInt?.isSome

/-- `scalar_string`: the text of a scalar; tables, functions and the like have none. -/
def scalarText (v : Value) : Except Fault (Option String) :=
  match v with
  | .text _ | .bytes _ => v.hostText
  | .int i => .ok (some (toString i))
  | .float x => .ok (some (if isWhole x then toString x.toInt64 else Decimal.plain x))
  | .bool b => .ok (some (toString b))
  | _ => .ok none

end ClusterScript.Script
