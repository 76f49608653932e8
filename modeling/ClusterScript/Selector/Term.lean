import ClusterScript.Text.Blank
import ClusterScript.Text.Split

/-!
# Field terms

A field selector is a list of comparisons of a path with a value. `text`
writes one of them, and `parse?` reads the three spellings that are in use.
The cluster knows a fixed set of paths for each resource; `unsupported` names
the others in a selector, for a warning.
-/
namespace ClusterScript.Selector

/-- `FieldSelectorOperator`: how a path is compared with a value. -/
inductive Comparison
  | equal
  | unequal
deriving DecidableEq, Repr, Inhabited

def Comparison.sign : Comparison → String
  | .equal => "=="
  | .unequal => "!="

/-- `FieldSelector`: one comparison of a field selector. -/
structure FieldTerm where
  path : String
  comparison : Comparison
  value : String
deriving DecidableEq, Repr, Inhabited

namespace FieldTerm

/-- `to_k8s_string`: the path, the sign and the value. -/
def text (t : FieldTerm) : String := t.path ++ t.comparison.sign ++ t.value

/-- The sides of a comparison: the first `!=`, else the first `==`, else the first `=`. -/
def sides? (term : String) : Option (String × Comparison × String) :=
  match Text.splitOnce "!=" term with
  | some (p, v) => some (p, .unequal, v)
  | none => match Text.splitOnce "==" term with
    | some (p, v) => some (p, .equal, v)
    | none => (Text.splitOnce "=" term).map fun (p, v) => (p, .equal, v)

/-- `parse`: reads one term; blanks around its parts do not count, and a path there must be. -/
def parse? (term : String) : Option FieldTerm :=
  match sides? (Text.trim term) with
  | some (p, c, v) => if Text.blank p then none else some ⟨Text.trim p, c, Text.trim v⟩
  | none => none

end FieldTerm

/-! ## The paths a resource can be selected by -/

/-- Paths that all resources know. -/
def universalFields : List String := ["metadata.name", "metadata.namespace"]

/-- `FIELD_SELECTOR_REGISTRY`: the paths of each resource with a known set of them. -/
def fieldTable : List (String × List String) :=
  [("pods", universalFields ++
      ["spec.nodeName", "spec.restartPolicy", "spec.schedulerName", "spec.serviceAccountName",
        "spec.hostNetwork", "status.phase", "status.podIP", "status.podIPs",
        "status.nominatedNodeName"]),
    ("replicasets", universalFields ++ ["status.replicas"]),
    ("services", universalFields),
    ("deployments", universalFields),
    ("daemonsets", universalFields)]

/-- `get_supported_fields`: the paths of a resource; none if it is unknown. -/
def supportedFields (resource : String) : List String :=
  (fieldTable.lookup resource).getD []

/-- `is_supported`: whether a resource knows a path. -/
def isSupported (resource path : String) : Bool := (supportedFields resource).contains path

/-- What one term of a selector names that the resource does not know. -/
def unsupportedTerm? (resource term : String) : Option String :=
  match FieldTerm.parse? term with
  | some t => if isSupported resource t.path then none else some t.path
  | none => some (Text.trim term)

/-- `unsupported_paths`: the paths of a selector that the resource does not know; of an unknown
resource none. -/
def unsupported (resource selector : String) : List String :=
  if (fieldTable.lookup resource).isNone then []
  else ((Text.splitOn ',' selector).filter fun t => !Text.blank t).filterMap
    (unsupportedTerm? resource)

end ClusterScript.Selector
