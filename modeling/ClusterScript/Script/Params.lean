import ClusterScript.Script.Scalar

/-!
# Parameter tables

A schema lists the keys that a table of parameters may have, the type of each
and whether it must be there. Reading goes through the entries of the table in
their order; what comes out is ordered by name.

* `ParamSchema.parse`: reads a table, and stops at the first entry that does
  not fit.
-/
namespace ClusterScript.Script

/-- `ParamType`: the types of parameters. -/
inductive ParamType
  | string
  /-- String keys with scalars. -/
  | stringMap
  /-- A sequence of scalars. -/
  | stringList
  | stringOrBlock
deriving DecidableEq, Repr, Inhabited

/-- `describe`: a type as messages name it. -/
def ParamType.describe : ParamType → String
  | .string => "a string"
  | .stringMap => "a map of strings"
  | .stringList => "an array of strings"
  | .stringOrBlock => "a string or a function"

/-- `ParamValue`: parameters as they were read. -/
inductive ParamValue
  | string (s : String)
  | map (members : List (String × String))
  | list (items : List String)
  | block (f : Value)
deriving DecidableEq, Inhabited

structure ParamKey where
  name : String
  type : ParamType
  required : Bool
deriving DecidableEq, Repr, Inhabited

/-- `ParamSchema`: the parameters that a function takes. -/
structure ParamSchema where
  /-- What the parameters are for. -/
  context : String
  keys : List ParamKey
deriving DecidableEq, Repr, Inhabited

/-- Puts a value at the place of its name, in the stead of one that is there. -/
def insertByName (name : String) (value : α) : List (String × α) → List (String × α)
  | [] => [(name, value)]
  | (k, v) :: rest =>
    if name < k then (name, value) :: (k, v) :: rest
    else if name = k then (name, value) :: rest
    else (k, v) :: insertByName name value rest

/-- Parameters by name, in ascending order. -/
abbrev Params := List (String × ParamValue)

namespace Params

/-- `string`: a parameter that is a text. -/
def string? (p : Params) (key : String) : Option String :=
  match p.lookup key with
  | some (.string s) => some s
  | _ => none

/-- `map`: a parameter that is a map of texts. -/
def map? (p : Params) (key : String) : Option (List (String × String)) :=
  match p.lookup key with
  | some (.map m) => some m
  | _ => none

/-- `list`: a parameter that is a list of texts. -/
def list? (p : Params) (key : String) : Option (List String) :=
  match p.lookup key with
  | some (.list l) => some l
  | _ => none

end Params

namespace ParamSchema

/-- The refusal of a value of the wrong type. -/
def mismatch (key : String) (type : ParamType) : Fault :=
  .refused (.wrongValue key type.describe)

def scalarOr (f : Fault) (v : Value) : Except Fault String := do
  match ← scalarText v with
  | some s => return s
  | none => throw f

/-- Reads the entries of a table of strings. -/
def parseMap (f : Fault) : List (Value × Value) → List (String × String) →
    Except Fault (List (String × String))
  | [], read => .ok read
  | (k, v) :: rest, read => do
    match ← k.hostText with
    | none => throw f
    | some k => do
      let v ← scalarOr f v
      parseMap f rest (insertByName k v read)

def parseList (f : Fault) : List Value → Except Fault (List String)
  | [] => .ok []
  | v :: rest => do
    let s ← scalarOr f v
    let more ← parseList f rest
    return s :: more

/-- `parse_value`: reads a value of a type; `tables` is the heap. -/
def parseValue (tables : Array Table) (key : String) (type : ParamType) (v : Value) :
    Except Fault ParamValue :=
  let f := mismatch key type
  match type, v with
  | .string, .text s | .stringOrBlock, .text s => .ok (.string s)
  | .string, .bytes _ | .stringOrBlock, .bytes _ => do
    return .string (← scalarOr f v)
  | .stringOrBlock, .closure _ | .stringOrBlock, .host _ => .ok (.block v)
  | .stringMap, .table id => do
    return .map (← parseMap f (tables[id]?.getD .empty).entries [])
  | .stringList, .table id =>
    let t := tables[id]?.getD .empty
    if t.hasOtherKeys then .error f else do return .list (← parseList f t.sequence)
  | _, _ => .error f

/-- Reads one entry of a table of parameters. -/
def parseEntry (schema : ParamSchema) (tables : Array Table) (k v : Value) :
    Except Fault (String × ParamValue) := do
  match ← k.hostText with
  | none => throw (.refused (.tableKeyType schema.context k.typeName))
  | some key =>
    match schema.keys.find? fun p => p.name = key with
    | none => throw (.refused (.unknownKey schema.context (schema.keys.map (·.name)) key))
    | some p => do return (key, ← parseValue tables key p.type v)

def parseEntries (schema : ParamSchema) (tables : Array Table) :
    List (Value × Value) → Params → Except Fault Params
  | [], read => .ok read
  | (k, v) :: rest, read => do
    let (key, value) ← parseEntry schema tables k v
    parseEntries schema tables rest (insertByName key value read)

/-- The first required key that is missing. -/
def missing? (schema : ParamSchema) (read : Params) : Option String :=
  (schema.keys.find? fun p => p.required && (read.lookup p.name).isNone).map (·.name)

/-- `parse`: reads a table of parameters. -/
def parse (schema : ParamSchema) (tables : Array Table) (t : Table) : Except Fault Params := do
  let read ← schema.parseEntries tables t.entries []
  match schema.missing? read with
  | some key => throw (.refused (.missingKey schema.context key))
  | none => return read

end ParamSchema

end ClusterScript.Script
