import ClusterScript.Cluster.Object
import ClusterScript.Json.Printer
import ClusterScript.Output.Table
import ClusterScript.Time.Timestamp
import ClusterScript.Yaml.Printer

/-!
# Summaries of objects

A list of objects as a table of namespace, name, age and labels, and a tree
in one of the two output formats.
-/
namespace ClusterScript.Output

inductive Format
  | json
  | yaml
deriving DecidableEq, Repr, Inhabited

/-- `format_value`: a tree in a format. -/
def write (f : Format) (j : Json) : String :=
  match f with
  | .json => j.pretty
  | .yaml => j.yaml

/-- The age of an object; unknown if its timestamp cannot be read. -/
def age (now : Timestamp) (object : Json) : String :=
  match (((object.get "metadata").get "creationTimestamp").asString?).bind Timestamp.parse? with
  | some created => now.age created
  | none => "<unknown>"

/-- All labels, a value that is no text being left empty. -/
def labelCell (object : Json) : String :=
  let members := ((object.get "metadata").get "labels").members?.getD []
  Text.join "," (members.map fun (k, v) => k ++ "=" ++ v.asString?.getD "")

def summaryRow (now : Timestamp) (object : Json) : List String :=
  [Object.namespaceName object, Object.name object, age now object, labelCell object]

/-- `summary`: the row of each object. -/
def summary (now : Timestamp) (objects : List Json) : Table :=
  ⟨["NAMESPACE", "NAME", "AGE", "LABELS"], objects.map (summaryRow now)⟩

end ClusterScript.Output
