import ClusterScript.Cluster.Resource
import ClusterScript.Registry.Arity
import ClusterScript.Selector.Expression

/-!
# Methods

What classes can do, as data: a method has a name, an arity and a body, and a
body says which operation it is. A trap is what happens to a member name that
a class does not define.
-/
namespace ClusterScript

inductive ListBody
  | refresh
  | at
  | describe
  | count
  | first
  | last
  | any
  | items
  | names
  | table
  | json
  | yaml
  | tree
deriving DecidableEq, Repr, Inhabited

inductive ObjectBody
  | refresh
  | describe
  | name
  | namespaceName
  | labels
  | json
  | yaml
  | tree
  | create
  | delete
  | pods
  | logs
deriving DecidableEq, Repr, Inhabited

inductive LogBody
  | refresh
  | describe
  | text
  | lines
  | puts
  | grep
deriving DecidableEq, Repr, Inhabited

/-- Methods of keys, collectors and selectors. -/
inductive SelectorBody
  /-- Reports an expression on the key. -/
  | compare (operator : Selector.Operator)
  | keyText
  | newKey (kind : Selector.Kind)
  /-- A key made by a collector. -/
  | makeKey (kind : Selector.Kind)
  | collectorText
  | newCollector (kind : Selector.Kind)
  | selectorText
  | count
  | newSelector (kind : Selector.Kind)
deriving DecidableEq, Repr, Inhabited

/-- Methods of tallies, which count how often they were hit. -/
inductive TallyBody
  | hit
  | hits
  | set
  | echo
  /-- Asks for its state as that of another class. -/
  | mistaken
  | text (s : String)
  | fail
  | countArgs
  | make
deriving DecidableEq, Repr, Inhabited

inductive Body
  | objectCount (cls : Nat)
  | selector (b : SelectorBody)
  | list (r : Resource) (b : ListBody)
  | object (r : Resource) (b : ObjectBody)
  | logs (b : LogBody)
  | tally (cls : Nat) (b : TallyBody)
deriving DecidableEq, Repr, Inhabited

/-- Class methods have no receiver. -/
inductive MethodKind
  | ofClass
  | ofInstance
deriving DecidableEq, Repr, Inhabited

def Body.kind : Body → MethodKind
  | .objectCount _ => .ofClass
  | .selector (.newKey _) | .selector (.newCollector _) | .selector (.newSelector _) => .ofClass
  | .tally _ .countArgs | .tally _ .make => .ofClass
  | _ => .ofInstance

/-- `MethodDescriptor`: a method before it is bound to a class. -/
structure Method where
  name : String
  arity : Arity
  body : Body
deriving DecidableEq, Repr, Inhabited

/-- `alias`: the same method under another name. -/
def Method.alias (m : Method) (name : String) : Method := { m with name := name }

/-- `Trap`: what becomes of a member name that a class does not define. -/
inductive Trap
  /-- A longer path on a key. -/
  | path (kind : Selector.Kind)
  /-- A key of a collector. -/
  | key
  | tally
deriving DecidableEq, Repr, Inhabited

end ClusterScript
