import ClusterScript.Library

/-!
# Cluster objects

An object is a JSON tree with its name, namespace and labels under
`metadata`. A kind that manages pods names them by a label selector in its
`spec`; `podSelector` reads it, and falls back to the labels of the object.
-/
namespace ClusterScript

namespace Object

/-- `meta_str`: a text of the metadata; empty if it is absent or no text. -/
def metadata (object : Json) (field : String) : String :=
  ((object.get "metadata").get field).asString?.getD ""

def name (object : Json) : String := metadata object "name"

def namespaceName (object : Json) : String := metadata object "namespace"

/-- The texts among the members of an object. -/
def texts (j : Json) : List (String × String) :=
  (j.members?.getD []).filterMap fun (k, v) => v.asString?.map fun s => (k, s)

/-- `labels_of`: the labels that are texts. -/
def labels (object : Json) : List (String × String) :=
  texts ((object.get "metadata").get "labels")

/-- The labels that the specification of a kind selects pods by. -/
def selectedLabels (r : Resource) (object : Json) : Json :=
  let selector := (object.get "spec").get "selector"
  match r with
  | .service => selector
  | _ => selector.get "matchLabels"

/-- An object without its version and kind, which items of lists lack. -/
def untyped (object : Json) : Json := (object.remove "apiVersion").remove "kind"

/-- `selector_of`: the labels that an object selects pods by, once it is decoded as one of its
kind. -/
def decodedLabels [Library] (r : Resource) (object : Json) :
    Except String (List (String × String)) := do
  let typed ← Library.decode r (untyped object)
  return texts (selectedLabels r typed)

/-- `pod_selector`: the labels of the pods of an object, those that it selects or its own if there
are none. -/
def podSelector [Library] (r : Resource) (object : Json) :
    Except String (List (String × String)) :=
  if r.findsPods then do
    let selected ← decodedLabels r object
    return if selected.isEmpty then labels object else selected
  else .ok (labels object)

end Object

end ClusterScript
