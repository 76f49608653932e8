import ClusterScript.Script.World

/-!
# Classes as tables

Every class has a table of its functions, which scripts reach through the
table of all classes. A method of a class shows in both: in the registry, by
its name, and in the table, as a function.

* `define`: a new class with its methods and the count of its instances.
* `append`: more methods for a class.
-/
namespace ClusterScript.Script.Classes

/-- Binds methods to a class, the later of one name in the stead of the earlier. -/
def bindAll (id : Nat) (c : Class) : List Method → Run Unit
  | [] => return ()
  | m :: rest => do
    let (bound, r) := (← Run.registry).addMethod id c m
    Run.setRegistry r
    Run.setIn c.table (.text m.name) (.host (.method bound))
    bindAll id c rest

/-- `append_methods`: adds methods to a class. -/
def append (id : Nat) (methods : List Method) : Run Unit := do
  bindAll id (← Run.lift ((← Run.registry).cls id)) methods

/-- `object_count`: the method that every class has: how many instances it made. -/
def objectCount (id : Nat) : Method := ⟨"object_count", .exact 0, .objectCount id⟩

/-- `define_class`: defines a class; the table of all classes shows it once its methods are bound.
-/
def define (name : String) (methods : List Method) : Run Nat := do
  let table ← Run.newTable .empty
  let (id, r) ← Run.lift ((← Run.registry).addClass name table)
  Run.setRegistry r
  append id (methods ++ [objectCount id])
  Run.setIn r.root (.text name) (.table table)
  return id

/-- `set_trap`: sets what becomes of members that a class does not define. -/
def setTrap (id : Nat) (trap : Trap) : Run Unit := do
  let r ← Run.registry
  let _ ← Run.lift (r.cls id)
  Run.setRegistry (r.modifyClass id fun c => { c with trap := some trap })

end ClusterScript.Script.Classes
