import ClusterScript.Json.Mismatch
import ClusterScript.Time.Timestamp

/-!
# Typed reading of trees

A schema says which members of an object are known and of which type they
are. Reading by a schema drops unknown members and nulls, fills in what must
be there, and stops at the first value of a wrong type, members being taken
in ascending order of their names.
-/
namespace ClusterScript

inductive Schema
  | anything
  | text
  | boolean
  | int32
  | int64
  /-- A timestamp, kept to the second in universal time. -/
  | time
  /-- Names with texts. -/
  | textMap
  | list (item : Schema)
  /-- Known members, in ascending order of their names. -/
  | record (name : String) (fields : List (String × Schema × Option Json))

namespace Schema

def expect (wanted : String) (j : Json) : Except Mismatch α :=
  .error (.type (Found.ofJson j) wanted)

def readText (j : Json) : Except Mismatch Json :=
  match j with
  | .str _ => .ok j
  | _ => expect "a string" j

def readTexts : List (String × Json) → Except Mismatch Unit
  | [] => .ok ()
  | (_, v) :: rest => do
    let _ ← readText v
    readTexts rest

/-- An integer within bounds. -/
def readInteger (name : String) (lo hi : Int) (j : Json) : Except Mismatch Json :=
  match j with
  | .num (.whole n) =>
    if lo ≤ n.val ∧ n.val < hi then .ok j else .error (.value (Found.ofJson j) name)
  | _ => expect name j

def readTime (j : Json) : Except Mismatch Json :=
  match j with
  | .str s =>
    match Timestamp.parse? s with
    | some t => .ok (.str t.write)
    | none => .error (.value (Found.ofJson j) "a timestamp")
  | _ => expect "a timestamp" j

/-- Reads the items of a list, all in one way. -/
def readItems (item : Json → Except Mismatch Json) : List Json → Except Mismatch (List Json)
  | [] => .ok []
  | j :: rest => do
    let first ← item j
    let more ← readItems item rest
    return first :: more

mutual

/-- Reads a value by a schema. -/
def read : Schema → Json → Except Mismatch Json
  | .anything, j => .ok j
  | .text, j => readText j
  | .boolean, j => match j with
    | .bool _ => .ok j
    | _ => expect "a boolean" j
  | .int32, j => readInteger "i32" (-0x80000000) 0x80000000 j
  | .int64, j => readInteger "i64" (-Power.signedLimit) Power.signedLimit j
  | .time, j => readTime j
  | .textMap, j => match j with
    | .obj members => do
      readTexts members
      return j
    | _ => expect "a map" j
  | .list item, j => match j with
    | .arr items => do return .arr (← readItems (fun j => read item j) items)
    | _ => expect "a sequence" j
  | .record name fields, j => match j with
    | .obj _ => do return .obj (← readFields fields j)
    | _ => expect name j

/-- The known members of an object. -/
def readFields : List (String × Schema × Option Json) → Json →
    Except Mismatch (List (String × Json))
  | [], _ => .ok []
  | (name, schema, fallback) :: rest, j => do
    let here ← match j.get name with
      | .null => pure (fallback.map fun v => (name, v))
      | v => do pure (some (name, ← read schema v))
    let more ← readFields rest j
    return here.toList ++ more

end

/-- A member that may be absent. -/
def optional (name : String) (schema : Schema) : String × Schema × Option Json :=
  (name, schema, none)

/-- A text that is empty if absent. -/
def required (name : String) : String × Schema × Option Json := (name, .text, some (.str ""))

end Schema

end ClusterScript
