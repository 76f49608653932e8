import ClusterScript.Script.World

/-!
# Script values as JSON

A table with a sequence, or one marked as made from a list, is a list of its
sequence; any other table is an object, whose keys must be strings. Numbers
that JSON does not have become null.

* `pivot`: the JSON of a value.
-/
namespace ClusterScript.Script

/-- A float as a key in a message: without exponent, and with a point if it is finite. -/
def keyNumber (x : Binary64) : String :=
  let s := Decimal.plain x
  if x.isFinite && !s.toList.contains '.' then s ++ ".0" else s

/-- Whether a table is a list. -/
def isList (t : Table) : Bool := t.length ≠ 0 || t.isArray

/-- The name of an object's member. -/
def memberName (tables : Array Table) (key : Value) : Except Fault String :=
  let refuse (found : String) : Except Fault String := .error (.undecodable (.keyType found))
  match key with
  | .text s => .ok s
  | .bytes _ => refuse "byte array"
  | .int i => refuse (Found.whole i.toInt).describe
  | .float x => refuse ("floating point `" ++ keyNumber x ++ "`")
  | .bool b => refuse (Found.bool b).describe
  | .marker => refuse "Option value"
  | .table id =>
    let found := if isList (tables[id]?.getD .empty) then Found.sequence else Found.map
    refuse found.describe
  | v => .error (.undecodable (.unsupported v.typeName))

/-- A value that is no table. -/
def pivotScalar (v : Value) : Except Fault Json :=
  match v with
  | .nil | .marker => .ok .null
  | .bool b => .ok (.bool b)
  | .int i => .ok (.num (.whole (.ofInt64 i)))
  | .float x => .ok (if x.isFinite then .num (.float x) else .null)
  | .text s => .ok (.str s)
  | .bytes _ => .error (.undecodable .rawBytes)
  | v => .error (.undecodable (.unsupported v.typeName))

mutual

/-- Tables may nest as deep as `fuel`; those in `open_` are being read. -/
def pivotValue (tables : Array Table) : Nat → List Nat → Value → Except Fault Json
  | fuel, outer, .table id =>
    match fuel with
    | 0 => .error (.undecodable .recursive)
    | fuel + 1 =>
      if outer.contains id then .error (.undecodable .recursive)
      else
        let t := tables[id]?.getD .empty
        if isList t then do
          return .arr (← pivotItems tables fuel (id :: outer) t.sequence)
        else do return Json.ofMembers (← pivotMembers tables fuel (id :: outer) t.entries)
  | _, _, v => pivotScalar v
termination_by fuel _ _ => (fuel, 0)

def pivotItems (tables : Array Table) :
    Nat → List Nat → List Value → Except Fault (List Json)
  | _, _, [] => .ok []
  | fuel, outer, v :: rest => do
    let j ← pivotValue tables fuel outer v
    let more ← pivotItems tables fuel outer rest
    return j :: more
termination_by fuel _ values => (fuel, values.length + 1)

def pivotMembers (tables : Array Table) :
    Nat → List Nat → List (Value × Value) → Except Fault (List (String × Json))
  | _, _, [] => .ok []
  | fuel, outer, (k, v) :: rest => do
    let name ← memberName tables k
    let j ← pivotValue tables fuel outer v
    let more ← pivotMembers tables fuel outer rest
    return (name, j) :: more
termination_by fuel _ entries => (fuel, entries.length + 1)

end

/-- `to_pivot`: the JSON of a value; a table that contains itself has none. -/
def pivot (tables : Array Table) (v : Value) : Except Fault Json :=
  pivotValue tables (tables.size + 1) [] v

end ClusterScript.Script
