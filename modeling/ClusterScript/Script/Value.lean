import ClusterScript.Cluster.Resource
import ClusterScript.Fault
import ClusterScript.Number.Decimal
import ClusterScript.Selector.Expression

/-!
# Script values

What a script computes with. Tables, closures and instances are references;
strings are bytes, kept as text wherever they are UTF-8, so that equal
strings are equal values.

* `Value.equal`: the equality of scripts, under which 1 and 1.0 are equal.
* `Value.key?`: what a value becomes as a key of a table.
* `Table.sequence`: the values at 1, 2, ... up to the first that is missing.
* `Table.length`: the length of a table, which reaches further where values are missing.
-/
namespace ClusterScript.Script

/-- A reference to an instance of a class. -/
structure Instance where
  cls : Nat
  handle : Nat
deriving DecidableEq, Repr, Inhabited

/-- Functions that the host provides. -/
inductive HostFunction
  /-- A method of a class, by its number in the registry. -/
  | method (id : Nat)
  | selector (kind : Selector.Kind)
  | list (r : Resource)
  | object (r : Resource)
  | makePod
  | setNamespace
  | getenv
  | importFile
  | tostring
  | typeOf
  | protectedCall
  | print
  | error
  /-- A library function that no chunk calls. -/
  | library (name : String)
deriving DecidableEq, Repr, Inhabited

inductive Value
  | nil
  | bool (b : Bool)
  | int (i : Int64)
  | float (x : Binary64)
  | text (s : String)
  /-- A string that is no text. -/
  | bytes (b : List UInt8)
  /-- What stands for a null of JSON. -/
  | marker
  /-- An object of the engine's own. -/
  | foreign
  | table (id : Nat)
  | closure (id : Nat)
  | host (f : HostFunction)
  | instance (i : Instance)
  | fault (f : Fault)
deriving DecidableEq, Inhabited

namespace Value

/-- The string of some bytes. -/
def ofBytes (b : List UInt8) : Value :=
  match Text.decode b with
  | .ok s => .text s
  | .error _ => .bytes b

def ofNat (n : Nat) : Value := .int (Int64.ofNat n)

def isNil : Value → Bool
  | .nil => true
  | _ => false

/-- All values but nil and false. -/
def isTrue : Value → Bool
  | .nil | .bool false => false
  | _ => true

def isFunction : Value → Bool
  | .closure _ | .host _ => true
  | _ => false

/-- The type as the host names it, which tells integers from other numbers. -/
def typeName : Value → String
  | .nil => "nil"
  | .bool _ => "boolean"
  | .int _ => "integer"
  | .float _ => "number"
  | .text _ | .bytes _ => "string"
  | .marker => "lightuserdata"
  | .foreign | .instance _ => "userdata"
  | .table _ => "table"
  | .closure _ | .host _ => "function"
  | .fault _ => "error"

/-- The type as scripts see it. -/
def scriptType : Value → String
  | .int _ | .float _ => "number"
  | .marker | .fault _ => "userdata"
  | v => v.typeName

/-- The type in messages about wrong operands. -/
def operandType : Value → String
  | .instance _ => "Instance"
  | .foreign => "FILE*"
  | .fault _ => "error"
  | v => v.scriptType

/-- The equality of scripts: numbers by value, instances by class and handle. -/
def equal : Value → Value → Bool
  | .int a, .float b => b.toInt? = some a.toInt
  | .float a, .int b => a.toInt? = some b.toInt
  | .float a, .float b => a.equal b
  | a, b => a = b

/-- The string form of numbers and strings. -/
def string? : Value → Option Value
  | .int i => some (.text (toString i))
  | .float x => some (.text (Decimal.fourteenDigits x))
  | .text s => some (.text s)
  | .bytes b => some (.bytes b)
  | _ => none

/-- The bytes of a string. -/
def bytesOf : Value → List UInt8
  | .text s => Text.encode s
  | .bytes b => b
  | _ => []

/-- The integer key that a float is, if it is whole and within 64 bits. -/
def integral? (x : Binary64) : Option Int64 :=
  match x.toInt? with
  | some i => if -Power.signedLimit ≤ i ∧ i < Power.signedLimit then some (Int64.ofInt i) else none
  | none => none

/-- A value as a key: whole floats are integers; nil and NaN are no keys. -/
def key? : Value → Option Value
  | .nil => none
  | .float x =>
    if x.isNaN then none
    else some (((integral? x).map Value.int).getD (.float x))
  | v => some v

end Value

/-! ## Tables -/

/-- Entries with distinct keys, none with the value nil; `isArray` marks a table made from a
list of JSON. With values missing in between, a table may end in several places: the engine looks
for its end among the places that it has `room` for, and behind the last of them. -/
structure Table where
  entries : List (Value × Value)
  isArray : Bool
  room : Nat := 0
deriving Inhabited

namespace Table

def empty : Table := ⟨[], false, 0⟩

/-- The value at a key; nil if there is none. -/
def get (t : Table) (key : Value) : Value := (t.entries.lookup key).getD .nil

/-- Replaces the value at a key, or appends the entry. -/
def insert (key value : Value) : List (Value × Value) → List (Value × Value)
  | [] => [(key, value)]
  | (k, v) :: rest => if k = key then (key, value) :: rest else (k, v) :: insert key value rest

/-- Sets the value at a key; nil drops the entry. -/
def set (t : Table) (key value : Value) : Table :=
  match value with
  | .nil => { t with entries := t.entries.filter fun e => e.1 ≠ key }
  | v => { t with entries := insert key v t.entries }

/-- The values at `i + 1`, `i + 2`, ... up to the first that is nil, at most `fuel` of them. -/
def valuesFrom (t : Table) : Nat → Nat → List Value
  | 0, _ => []
  | fuel + 1, i =>
    match t.get (.ofNat (i + 1)) with
    | .nil => []
    | v => v :: valuesFrom t fuel (i + 1)

/-- The sequence at 1, 2, ... -/
def sequence (t : Table) : List Value := t.valuesFrom t.entries.length 0

/-- A place with a value. -/
def takes (t : Table) (n : Nat) : Bool := n < 0x8000000000000000 && !(t.get (.ofNat n)).isNil

/-- Halves the places between one with a value, or none, and one without. -/
def halve (t : Table) : Nat → Nat → Nat → Nat
  | 0, low, _ => low
  | fuel + 1, low, high =>
    if high ≤ low + 1 then low
    else if t.takes ((low + high) / 2) then t.halve fuel ((low + high) / 2) high
    else t.halve fuel low ((low + high) / 2)

/-- The end among the places that there is room for. -/
def start (t : Table) : Nat :=
  if t.room = 0 ∨ t.takes t.room then t.room
  else if 2 ≤ t.room ∧ t.takes (t.room - 1) then t.room - 1
  else t.halve t.room 0 t.room

/-- The length: an end of the table, that is a place with a value, or 0, and none behind it. -/
def length (t : Table) : Nat := t.start + (t.valuesFrom t.entries.length t.start).length

/-- Whether a key belongs to a sequence of length `n`. -/
def inSequence (n : Nat) : Value → Bool
  | .int i => 1 ≤ i.toInt && i.toInt ≤ n
  | _ => false

/-- `has_non_sequence_keys`: whether some key lies beyond the length, or is no place. -/
def hasOtherKeys (t : Table) : Bool :=
  let n := t.length
  t.entries.any fun e => !inSequence n e.1

/-- The table of values at 1, 2, ...; nil leaves its place empty. -/
def ofList (values : List Value) : Table where
  entries := (values.zipIdx.map fun (v, i) => (Value.ofNat (i + 1), v)).filter fun e => !e.2.isNil
  isArray := false
  room := values.length

end Table

end ClusterScript.Script
