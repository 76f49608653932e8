import ClusterScript.Fault
import ClusterScript.Json.Basic
import ClusterScript.Text.Split

/-!
# Making pods

A pod of one container from a few parameters. Its name is given, or taken
from the image: `registry.local/team/nginx:1.25` makes the pod `nginx`.
-/
namespace ClusterScript

/-- What a pod is made of; a list or map that is absent stays absent in the pod. -/
structure PodParameters where
  image : String
  name : Option String
  namespaceName : Option String
  labels : Option (List (String × String))
  env : Option (List (String × String))
  command : Option (List String)
deriving DecidableEq, Repr

namespace PodParameters

/-- `name_from_image`: the last part of an image's path, without tag and digest. -/
def nameFromImage (image : String) : String :=
  let last := ((Text.splitOn '/' image).getLast?).getD ""
  String.ofList (last.toList.takeWhile fun c => c != ':' && c != '@')

def textMap (members : List (String × String)) : Json :=
  Json.ofMembers (members.map fun (k, v) => (k, .str v))

/-- A member that is left out if there is no value. -/
def member (name : String) (value : Option Json) : List (String × Json) :=
  value.toList.map fun v => (name, v)

/-- `build_pod`: the pod, labelled with its name; it is not yet in the cluster. -/
def pod (p : PodParameters) : Except Refusal Json :=
  let name := p.name.getD (nameFromImage p.image)
  if name = "" then .error (.noNameInImage p.image)
  else
    let labels := (p.labels.getD []) ++ [("name", name)]
    let env := p.env.map fun env =>
      Json.arr (env.map fun (k, v) => Json.ofMembers [("name", .str k), ("value", .str v)])
    let container := Json.ofMembers
      (member "command" (p.command.map fun c => Json.arr (c.map Json.str)) ++ member "env" env ++
        [("image", .str p.image), ("name", .str name)])
    .ok (Json.ofMembers
      [("apiVersion", .str "v1"), ("kind", .str "Pod"),
        ("metadata", Json.ofMembers
          ([("labels", textMap labels), ("name", .str name)] ++
            member "namespace" (p.namespaceName.map Json.str))),
        ("spec", Json.ofMembers [("containers", .arr [container])])])

end PodParameters

end ClusterScript
