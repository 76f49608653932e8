import ClusterScript.Script.World

/-!
# JSON as script values

A converter builds tables depth first. Each list or object under construction
is a branch; a branch knows the one it stands in and the key that its next
value is for. Finishing a branch goes back to the enclosing one. Tables made
from lists are marked, so that an empty list stays a list.

* `Converter.convert`: converts one tree, once.
* `build`: the same value by recursion over the tree.
-/
namespace ClusterScript.Script

/-- A number of an object in a script. -/
def numberValue (mode : NumberMode) (n : Number) : Value :=
  match mode, n with
  | .decimalString, n => .text (Decimal.sixPlaces n.toBinary64)
  | .native, .whole n =>
    match n.toInt64? with
    | some i => .int i
    | none => .float (Binary64.ofInt n.val)
  | .native, .float x => .float x

/-- `scalar`: the value of a tree that is no container. -/
def scalarValue (mode : NumberMode) : Json → Value
  | .bool b => .bool b
  | .num n => numberValue mode n
  | .str s => .text s
  | _ => .marker

/-- `Shape`: what a container becomes. -/
inductive Shape
  | map
  | array
deriving DecidableEq, Repr, Inhabited

/-- `Branch`: a container under construction. -/
structure Branch where
  shape : Shape
  /-- The branch it stands in. -/
  parent : Option Nat
  /-- Its table. -/
  container : Nat
  pendingKey : Option Value
deriving Inhabited

/-- `Converter`: the branches of a tree under construction, of which one is current. -/
structure Converter where
  mode : NumberMode
  branches : Array Branch
  current : Nat
  atRoot : Bool
  used : Bool
deriving Inhabited

namespace Converter

def new (mode : NumberMode) : Converter := ⟨mode, #[], 0, true, false⟩

abbrev Step := StateT Converter Run

def stop (f : ConverterFault) : Step α := fun _ => Run.fault (.converter f)

/-- `branch_mut`: the branch that values go into. -/
def currentBranch : Step Branch := do
  let c ← get
  match c.branches[c.current]? with
  | some b => return b
  | none => stop .noBranch

/-- `append_branch`: opens a branch inside of the current one. -/
def appendBranch (shape : Shape) : Step Unit := do
  let container ← (Run.newTable ⟨[], shape = .array, 0⟩ : Run Nat)
  modify fun c =>
    { c with
      branches := c.branches.push
        ⟨shape, if c.atRoot then none else some c.current, container, none⟩
      current := c.branches.size
      atRoot := false }

/-- `flip_branch`: the table of the finished branch; the enclosing one is current again. -/
def flipBranch : Step Value := do
  let b ← currentBranch
  modify fun c => { c with current := b.parent.getD c.current }
  return .table b.container

/-- Sets the key that the next value of the current branch is for. -/
def expectKey (key : Value) : Step Unit := do
  let b ← currentBranch
  modify fun c =>
    { c with branches := c.branches.setIfInBounds c.current { b with pendingKey := some key } }

/-- `store`: puts a finished value at its key. -/
def store (v : Value) : Step Unit := do
  let b ← currentBranch
  match b.pendingKey with
  | none => stop .noPendingKey
  | some key =>
    modify fun c =>
      { c with branches := c.branches.setIfInBounds c.current { b with pendingKey := none } }
    (Run.setIn b.container key v : Run Unit)

mutual

/-- `walk`: the value of a tree, built in the branches of the converter. -/
def walk : Json → Step Value
  | .obj members => do
    appendBranch .map
    walkMembers members
    flipBranch
  | .arr items => do
    appendBranch .array
    walkItems 1 items
    flipBranch
  | scalar => do
    modify fun c => { c with atRoot := false }
    return scalarValue (← get).mode scalar

def walkMembers : List (String × Json) → Step Unit
  | [] => return ()
  | (k, j) :: rest => do
    expectKey (.text k)
    let v ← walk j
    store v
    walkMembers rest

/-- Items from a position on. -/
def walkItems (position : Nat) : List Json → Step Unit
  | [] => return ()
  | j :: rest => do
    expectKey (.ofNat position)
    let v ← walk j
    store v
    walkItems (position + 1) rest

end

/-- `convert_pivot`: converts a tree; a converter that was used before refuses. -/
def convert (j : Json) : Step Value := do
  if (← get).used then stop .used
  else
    modify fun c => { c with used := true }
    walk j

end Converter

/-! ## By recursion over the tree -/

mutual

/-- The value of a tree. -/
def build (mode : NumberMode) : Json → Run Value
  | .obj members => do
    let id ← Run.newTable ⟨[], false, 0⟩
    buildMembers mode id members
    return .table id
  | .arr items => do
    let id ← Run.newTable ⟨[], true, 0⟩
    buildItems mode id 1 items
    return .table id
  | scalar => return scalarValue mode scalar

def buildMembers (mode : NumberMode) (id : Nat) : List (String × Json) → Run Unit
  | [] => return ()
  | (k, j) :: rest => do
    let v ← build mode j
    Run.setIn id (.text k) v
    buildMembers mode id rest

def buildItems (mode : NumberMode) (id position : Nat) : List Json → Run Unit
  | [] => return ()
  | j :: rest => do
    let v ← build mode j
    Run.setIn id (.ofNat position) v
    buildItems mode id (position + 1) rest

end

/-- Converts a tree with a converter of its own. -/
def fromJson (mode : NumberMode) (j : Json) : Run Value := do
  let (v, _) ← (Converter.convert j).run (Converter.new mode)
  return v

end ClusterScript.Script
