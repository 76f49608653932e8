import ClusterScript.Json.Basic
import ClusterScript.Query.Basic
import ClusterScript.Registry.Method
import ClusterScript.Script.Value

/-!
# The registry of classes and instances

Classes are numbered in the order of their definition, instances of all
classes together in the order of their creation. An instance is found by its
number, and only as one of its own class, so a reference that the registry
never handed out finds nothing.

* `lookup`: the state of an instance.
* `allocate`: a new instance.
-/
namespace ClusterScript

open Script (Instance)

/-- Where the matches of a key go. -/
inductive Sink
  /-- Into a list of expressions. -/
  | record (list : Nat)
  | discard
  /-- Nowhere: the key of this name was made outside of a collector. -/
  | detached (name : String)
deriving DecidableEq, Repr, Inhabited

/-- What the host keeps of an instance. -/
inductive InstanceState
  | key (path : List String) (sink : Sink)
  /-- `known` are the keys that were made along with the collector. -/
  | collector (kind : Selector.Kind) (list : Nat) (known : List (String × Instance))
  | selector (expressions : List Selector.Expression) (rendered : String)
  | list (query : Query) (items : List Json)
  | object (object : Json)
  /-- The log of a pod; the text once it was read. -/
  | logs (ns pod : String) (text : Option String)
  | tally (hits : Int64)
deriving Inhabited

/-- `ClassEntry`: what is known of a class. -/
structure Class where
  name : String
  /-- The table of its functions. -/
  table : Nat
  /-- In the order of their definition. -/
  methods : List Method
  trap : Option Trap
  /-- How many instances were made. -/
  objectCount : Nat
deriving Inhabited

/-- `Slot`: an instance by its number. -/
structure Slot where
  cls : Nat
  state : InstanceState
deriving Inhabited

/-- A method as a function: of which class it is, and the table of that class. -/
structure BoundMethod where
  cls : Nat
  className : String
  table : Nat
  method : Method
deriving Inhabited

namespace BoundMethod

/-- The method's name with that of its class. -/
def qualifiedName (m : BoundMethod) : String := m.className ++ "#" ++ m.method.name

/-- `bind`: the receiver among arguments: the first, if it is an instance of the class. -/
def receiver? (m : BoundMethod) : List Script.Value → Option (Instance × List Script.Value)
  | .instance i :: rest => if i.cls = m.cls then some (i, rest) else none
  | _ => none

/-- `bind`: arguments without the table of the class, which may stand before them. -/
def withoutOwnTable (m : BoundMethod) : List Script.Value → List Script.Value
  | .table id :: rest => if id = m.table then rest else .table id :: rest
  | args => args

/-- `check`: refuses a wrong number of arguments. -/
def checkArity (m : BoundMethod) (given : Nat) : Except Refusal Unit :=
  if m.method.arity.Admits given then .ok ()
  else .error (.arity (some m.qualifiedName) given m.method.arity)

end BoundMethod

structure Registry where
  /-- The table that holds the tables of the classes. -/
  root : Nat
  classes : List Class
  slots : Array Slot
  bound : Array BoundMethod
  /-- The lists of expressions that keys report to. -/
  recordings : Array (List Selector.Expression)
deriving Inhabited

namespace Registry

/-- `ROOT_TABLE`: the name of the table of all classes. -/
def rootName : String := "kube"

def empty (root : Nat) : Registry := ⟨root, [], #[], #[], #[]⟩

/-- `is_class_name`: letters, digits and underscores, the first no digit. -/
def validName (name : String) : Bool :=
  match name.toList with
  | [] => false
  | c :: rest => (c.isAlpha || c == '_') && rest.all fun c => c.isAlphanum || c == '_'

def undefinedClass (cls : Nat) : Fault := .classDefinition s!"class #{cls}"

def cls (r : Registry) (id : Nat) : Except Fault Class :=
  match r.classes[id]? with
  | some c => .ok c
  | none => .error (undefinedClass id)

/-- `class_name`: the name of a class. -/
def className (r : Registry) (id : Nat) : Except Fault String := (r.cls id).map (·.name)

/-- `class_id`: the number of a class. -/
def classId? (r : Registry) (name : String) : Option Nat :=
  r.classes.findIdx? fun c => c.name = name

/-- `require_class`: the number of a class that has to be there. -/
def requireClass (r : Registry) (name : String) : Except Fault Nat :=
  match r.classId? name with
  | some id => .ok id
  | none => .error (.classDefinition s!"{name} is not defined")

/-- `method_names`: the names of the methods of a class, in the order of their definition. -/
def methodNames (r : Registry) (id : Nat) : List String :=
  (r.classes[id]?.map fun c => c.methods.map (·.name)).getD []

def notFound (r : Registry) (i : Instance) : Fault :=
  .noInstance ((r.className i.cls).toOption.getD s!"class #{i.cls}") i.handle

/-- `lookup`: the state of an instance. -/
def lookup (r : Registry) (i : Instance) : Except Fault InstanceState :=
  match r.slots[i.handle]? with
  | some slot => if slot.cls = i.cls then .ok slot.state else .error (r.notFound i)
  | none => .error (r.notFound i)

/-- Replaces the state of an instance. -/
def update (r : Registry) (i : Instance) (state : InstanceState) : Registry :=
  { r with slots := r.slots.setIfInBounds i.handle ⟨i.cls, state⟩ }

/-- Changes a class. -/
def modifyClass (r : Registry) (id : Nat) (f : Class → Class) : Registry :=
  { r with classes := r.classes.modify id f }

/-- `new_instance`: a new instance of a class. -/
def allocate (r : Registry) (id : Nat) (state : InstanceState) :
    Except Fault (Instance × Registry) := do
  let _ ← r.cls id
  let counted := r.modifyClass id fun c => { c with objectCount := c.objectCount + 1 }
  return (⟨id, r.slots.size⟩, { counted with slots := r.slots.push ⟨id, state⟩ })

/-- `define_class`: a new class without methods; the name must be free. -/
def addClass (r : Registry) (name : String) (table : Nat) : Except Fault (Nat × Registry) :=
  if !validName name || (r.classId? name).isSome then .error (.classDefinition name)
  else .ok (r.classes.length,
    { r with classes := r.classes ++ [⟨name, table, [], none, 0⟩] })

/-- `append_methods`: binds a method of a class; a method of the same name gives way. -/
def addMethod (r : Registry) (id : Nat) (c : Class) (m : Method) : Nat × Registry :=
  let listed := r.modifyClass id fun c =>
    { c with methods := (c.methods.filter fun x => x.name ≠ m.name) ++ [m] }
  (r.bound.size, { listed with bound := r.bound.push ⟨id, c.name, c.table, m⟩ })

/-- A new, empty list of expressions. -/
def newRecording (r : Registry) : Nat × Registry :=
  (r.recordings.size, { r with recordings := r.recordings.push [] })

def recording (r : Registry) (list : Nat) : List Selector.Expression :=
  (r.recordings[list]?).getD []

/-- Appends to a list of expressions. -/
def record (r : Registry) (list : Nat) (e : Selector.Expression) : Registry :=
  { r with recordings := r.recordings.modify list (· ++ [e]) }

end Registry

end ClusterScript
