import ClusterScript.Script.World
import ClusterScript.Text.Split

/-!
# Operations on script values

Indexing, length, text and concatenation. On an instance they go through the
table of its class, so a script that assigns to that table changes them.

* `index`: a member of a value.
* `display`: the text of a value, as `tostring` gives it.
-/
namespace ClusterScript.Script

/-- The function at a name of a class's table; other values there are refused. -/
def classMember (cls : Nat) (name : String) : Run (Option Value) := do
  let c ← Run.lift ((← Run.registry).cls cls)
  match ← Run.getIn c.table (.text name) with
  | .nil => return none
  | v => if v.isFunction then return some v else Run.fault (.coercion (.notFunction v.typeName))

/-- The first of some results. -/
def firstOf (values : List Value) : Value := values.head?.getD .nil

/-- A result that has to be text. -/
def textResult (values : List Value) : Run String :=
  match (firstOf values).coerced with
  | .ok s => return s
  | .error c => Run.fault (.coercion c)

/-- The text of a value; an instance is asked for it by `ask`. -/
def displayBy (ask : Caller) (v : Value) : Run Value := do
  match v with
  | .nil => return .text "nil"
  | .bool b => return .text (toString b)
  | .instance i =>
    match ← classMember i.cls "to_s" with
    | some f => return .text (← textResult (← ask f [v]))
    | none =>
      let name ← Run.lift ((← Run.registry).className i.cls)
      return .text s!"<{name} #{i.handle}>"
  | .marker => return .text "userdata: (nil)"
  | .foreign => return .text "file"
  | .table id => return .text s!"table: {id}"
  | .closure id => return .text s!"function: {id}"
  | .host _ => return .text "function: builtin"
  | .fault f => return .text f.message
  | v => return v.string?.getD .nil

/-- The text of a value that is raised, up to a stack trace. -/
def raisedText (call : Caller) (v : Value) : Run String := do
  let shown ← tryCatch (displayBy call v) fun
    | .overflowed => throw .overflowed
    | _ => return Value.text ""
  let s := match shown with
    | .text s => s
    | v => Text.lenient v.bytesOf
  return ((Text.splitOnce "\nstack traceback:" s).map (·.1)).getD s

/-- The fault that a raised value is for the host. -/
def faultOf (call : Caller) (v : Value) : Run Fault := do
  match v with
  | .fault f => return f
  | v => return .script (← raisedText call v)

/-- Calls a script's function for the host: what it raises becomes a fault. -/
def callFromHost (call : Caller) (f : Value) (args : List Value) : Run (List Value) :=
  tryCatch (call f args) fun
    | .raised v => do Run.fault (← faultOf call v)
    | .exhausted => throw .exhausted
    | .overflowed => throw .overflowed

/-- The text of a value. -/
def display (call : Caller) (v : Value) : Run Value := displayBy (callFromHost call) v

/-- Calls a method of an instance by name. -/
def callNamed (call : Caller) (i : Instance) (name : String) (args : List Value) :
    Run (List Value) := do
  match ← classMember i.cls name with
  | some f => callFromHost call f (.instance i :: args)
  | none => Run.refuse (.undefinedMethod name (← Run.lift ((← Run.registry).className i.cls)))

/-- What happens to a member name that the class of an instance does not define. -/
abbrev TrapHandler := Trap → Instance → String → Run Value

/-- A member of an instance: a position through the method `[]`, a name through the table of
the class and then through the trap. -/
def indexInstance (call : Caller) (trap : TrapHandler) (i : Instance) (key : Value) :
    Run Value := do
  match key with
  | .int _ | .float _ =>
    match ← classMember i.cls "[]" with
    | some f => return firstOf (← callFromHost call f [.instance i, key])
    | none => return .nil
  | .text _ | .bytes _ =>
    match ← Run.lift key.hostText with
    | none => return .nil
    | some name =>
      match ← classMember i.cls name with
      | some f => return f
      | none =>
        match ((← Run.registry).classes[i.cls]?).bind (·.trap) with
        | some t => trap t i name
        | none => return .nil
  | _ => return .nil

/-- The functions of strings. -/
def stringMembers : List String :=
  ["byte", "char", "dump", "find", "format", "gmatch", "gsub", "len", "lower", "match", "pack",
    "packsize", "rep", "reverse", "sub", "unpack", "upper"]

/-- A member of a value. -/
def index (call : Caller) (trap : TrapHandler) (v key : Value) : Run Value := do
  match v with
  | .table id =>
    match key.key? with
    | some key => Run.getIn id key
    | none => return .nil
  | .instance i => indexInstance call trap i key
  | .text _ | .bytes _ =>
    match key with
    | .text name =>
      return if stringMembers.contains name then .host (.library s!"string.{name}") else .nil
    | _ => return .nil
  | .foreign => return .nil
  | v => Run.complain s!"attempt to index a {v.operandType} value"

/-- What the engine says of a value that is no key. -/
def missingKey (key : Value) : String :=
  if key.isNil then "table index is nil" else "table index is NaN"

/-- Sets a member of a table. -/
def assignIndex (v key value : Value) : Run Unit := do
  match v with
  | .table id =>
    match key.key? with
    | some key => Run.setIn id key value
    | none => Run.complain (missingKey key)
  | v => Run.complain s!"attempt to index a {v.operandType} value"

/-- The length of a string or a table; an instance is asked for it. -/
def length (call : Caller) (v : Value) : Run Value := do
  match v with
  | .text s => return .ofNat s.utf8ByteSize
  | .bytes b => return .ofNat b.length
  | .table id => return .ofNat (← Run.table id).length
  | .instance i =>
    match ← classMember i.cls "count" with
    | some f => return firstOf (← callFromHost call f [v])
    | none => Run.refuse (.noLength (← Run.lift ((← Run.registry).className i.cls)))
  | v => Run.complain s!"attempt to get length of a {v.operandType} value"

/-- Two strings or numbers as one string. -/
def concat (a b : Value) : Run Value :=
  match a.string?, b.string? with
  | some (.text s), some (.text t) => return .text (s ++ t)
  | some s, some t => return .ofBytes (s.bytesOf ++ t.bytesOf)
  | some _, none => Run.complain s!"attempt to concatenate a {b.operandType} value"
  | none, _ => Run.complain s!"attempt to concatenate a {a.operandType} value"

end ClusterScript.Script
