import ClusterScript.Json.Basic
import ClusterScript.Number.Decimal
import ClusterScript.Text.Quoted

/-!
# A value of the wrong type

Where a reader wants one type of value and finds another, it says so with
both: what it found (`Found`) and what it wanted.
-/
namespace ClusterScript

/-- How floating-point numbers of JSON texts are written. -/
def Json.numberLayout : Decimal.Layout := ⟨-5, 16, "+"⟩

/-- What a reader came upon. -/
inductive Found
  | null
  | bool (b : Bool)
  | whole (i : Int)
  | float (x : Binary64)
  | text (s : String)
  | sequence
  | map
deriving DecidableEq, Repr

def Found.ofJson : Json → Found
  | .null => .null
  | .bool b => .bool b
  | .num (.whole n) => .whole n.val
  | .num (.float x) => .float x
  | .str s => .text s
  | .arr _ => .sequence
  | .obj _ => .map

def Found.describe : Found → String
  | .null => "null"
  | .bool b => s!"boolean `{b}`"
  | .whole i => s!"integer `{i}`"
  | .float x => s!"floating point `" ++ Json.numberLayout.write x ++ "`"
  | .text s => "string " ++ Text.quoted s
  | .sequence => "sequence"
  | .map => "map"

/-- What a typed reader objects to. -/
inductive Mismatch
  /-- A value of another type than wanted. -/
  | type (found : Found) (wanted : String)
  /-- A value of the right type that is out of range. -/
  | value (found : Found) (wanted : String)
  /-- None of the names that are allowed here. -/
  | variant (found : String) (allowed : List String)
  | missing (field : String)
  | duplicate (field : String)
  /-- Fewer elements than wanted. -/
  | length (found : Nat) (wanted : String)
deriving DecidableEq, Repr

/-- The alternatives of an error text. -/
def alternatives : List String → String
  | [] => "there are no variants"
  | [a] => s!"expected `{a}`"
  | [a, b] => s!"expected `{a}` or `{b}`"
  | all => "expected one of " ++ String.intercalate ", " (all.map fun a => s!"`{a}`")

def Mismatch.message : Mismatch → String
  | .type found wanted => s!"invalid type: {found.describe}, expected {wanted}"
  | .value found wanted => s!"invalid value: {found.describe}, expected {wanted}"
  | .variant found allowed => s!"unknown variant `{found}`, {alternatives allowed}"
  | .missing field => s!"missing field `{field}`"
  | .duplicate field => s!"duplicate field `{field}`"
  | .length found wanted => s!"invalid length {found}, expected {wanted}"

end ClusterScript
