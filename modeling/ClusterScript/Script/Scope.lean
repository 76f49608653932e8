import ClusterScript.Script.World
import ClusterScript.Text.Blank

/-!
# The namespace of a session

A session stands in one namespace or, written `*`, in all of them. Lists look
where a query says, else in the namespace of the session; calls for a single
object need one namespace, and take `default` when the session is in all.
-/
namespace ClusterScript.Script

/-- `ALL_NAMESPACES`: the current namespace that stands for all. -/
def allNamespaces : String := "*"

/-- The namespace that a text names; blanks around it do not count, and blanks alone mean
all. -/
def namespaceOf (s : String) : String := if Text.blank s then allNamespaces else Text.trim s

/-- `list_namespace`: where to list: `none` is everywhere. -/
def listNamespace (current : String) : Scope → Option String
  | .everywhere => none
  | .named ns => some ns
  | .current => if current = allNamespaces then none else some current

/-- `default_namespace`: the namespace of calls for a single object. -/
def defaultNamespace (current : String) : String :=
  if current = allNamespaces then "default" else current

namespace Run

def currentNamespace : Run String := do return (← host).currentNamespace

/-- `set_namespace`: sets the current namespace. -/
def setNamespace (s : String) : Run Unit := do
  setHost { ← host with currentNamespace := namespaceOf s }

end Run

end ClusterScript.Script
