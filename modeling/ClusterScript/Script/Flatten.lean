import ClusterScript.Script.Scalar

/-!
# Operands of a match

The operands of a match are scalars and sequences of operands. Flattening
takes the scalars from left to right, as texts. Tables are references, so one
may contain itself, and then flattening would go on in it without end. It
counts how deep it is: a table nested deeper than there are tables is inside
of itself, and flattening ends there without texts.

* `flattenAll`: the texts of a list of operands.
-/
namespace ClusterScript.Script

/-- How flattening ends without texts. -/
inductive FlattenStop
  | fault (f : Fault)
  /-- Nested deeper than there are tables: the recursion would not end. -/
  | tooDeep
deriving DecidableEq

/-- The text of one operand that is no table. -/
def operandText (v : Value) : Except FlattenStop String :=
  match scalarText v with
  | .error f => .error (.fault f)
  | .ok none => .error (.fault (.refused (.operandType v.typeName)))
  | .ok (some s) =>
    if Text.blank s then .error (.fault (.refused (.blankOperand s))) else .ok s

mutual

/-- `push`: the texts of an operand; tables may nest `depth` deep. -/
def flatten (tables : Array Table) (depth : Nat) (v : Value) :
    Except FlattenStop (List String) :=
  match v with
  | .table id =>
    match depth with
    | 0 => .error .tooDeep
    | depth + 1 =>
      let t := tables[id]?.getD .empty
      if t.hasOtherKeys then .error (.fault (.refused .mapOperand))
      else flattenAll tables depth t.sequence
  | v => do return [← operandText v]
termination_by (depth, 0)

/-- The texts of operands, one after the other. -/
def flattenAll (tables : Array Table) (depth : Nat) (values : List Value) :
    Except FlattenStop (List String) :=
  match values with
  | [] => .ok []
  | v :: rest => do
    let first ← flatten tables depth v
    let more ← flattenAll tables depth rest
    return first ++ more
termination_by (depth, values.length + 1)

end

/-- `collect_values`: the texts of the operands of a match. -/
def operands (tables : Array Table) (values : List Value) : Except FlattenStop (List String) :=
  flattenAll tables (tables.size + 1) values

end ClusterScript.Script
