import ClusterScript.Json.Reader
import ClusterScript.Json.Schema
import ClusterScript.Library
import ClusterScript.Pattern.Parser

/-!
# The library of the program

What the program runs with: bodies are read as JSON, and objects by schemas of
the members that matter to it. A member that no schema names is not looked at,
so some objects are taken here that a reader of every member refuses. Choices
at random fall on the first.

* `Library.Standard.library`: the library.
-/
namespace ClusterScript

/-! ## Errors of the cluster -/

namespace Http

/-- The phrases of the statuses. -/
def phrases : List (Nat × String) :=
  [(100, "Continue"), (101, "Switching Protocols"), (102, "Processing"), (200, "OK"),
    (201, "Created"), (202, "Accepted"), (203, "Non Authoritative Information"),
    (204, "No Content"), (205, "Reset Content"), (206, "Partial Content"),
    (207, "Multi-Status"), (208, "Already Reported"), (226, "IM Used"),
    (300, "Multiple Choices"), (301, "Moved Permanently"), (302, "Found"), (303, "See Other"),
    (304, "Not Modified"), (305, "Use Proxy"), (307, "Temporary Redirect"),
    (308, "Permanent Redirect"), (400, "Bad Request"), (401, "Unauthorized"),
    (402, "Payment Required"), (403, "Forbidden"), (404, "Not Found"),
    (405, "Method Not Allowed"), (406, "Not Acceptable"),
    (407, "Proxy Authentication Required"), (408, "Request Timeout"), (409, "Conflict"),
    (410, "Gone"), (411, "Length Required"), (412, "Precondition Failed"),
    (413, "Payload Too Large"), (414, "URI Too Long"), (415, "Unsupported Media Type"),
    (416, "Range Not Satisfiable"), (417, "Expectation Failed"), (418, "I'm a teapot"),
    (421, "Misdirected Request"), (422, "Unprocessable Entity"), (423, "Locked"),
    (424, "Failed Dependency"), (425, "Too Early"), (426, "Upgrade Required"),
    (428, "Precondition Required"), (429, "Too Many Requests"),
    (431, "Request Header Fields Too Large"), (451, "Unavailable For Legal Reasons"),
    (500, "Internal Server Error"), (501, "Not Implemented"), (502, "Bad Gateway"),
    (503, "Service Unavailable"), (504, "Gateway Timeout"),
    (505, "HTTP Version Not Supported"), (506, "Variant Also Negotiates"),
    (507, "Insufficient Storage"), (508, "Loop Detected"), (510, "Not Extended"),
    (511, "Network Authentication Required")]

def statusText (status : Nat) : String :=
  toString status ++ " " ++ (phrases.lookup status).getD "<unknown status code>"

namespace ErrorReport

/-- A text that is empty if absent. -/
def textOr? : Option Json → Option String
  | none => some ""
  | some (.str s) => some s
  | some _ => none

def code? : Option Json → Option Nat
  | some (.num (.whole n)) => if 0 ≤ n.val ∧ n.val < 65536 then some n.val.toNat else none
  | _ => none

def ofFields? (status message reason code : Option Json) : Option ErrorReport := do
  match status with
  | some (.str status) => return ⟨status, ← textOr? message, ← textOr? reason, ← code? code⟩
  | _ => none

/-- The report that a body is, by names or by position. -/
def ofJson? : Json → Option ErrorReport
  | .obj members =>
    ofFields? (members.lookup "status") (members.lookup "message") (members.lookup "reason")
      (members.lookup "code")
  | .arr [a, b, c, d] => ofFields? (some a) (some b) (some c) (some d)
  | _ => none

/-- The report of a reply; a body that is none is quoted. -/
def ofReply (status : Nat) (body : String) : ErrorReport :=
  match (Json.read body).toOption.bind ofJson? with
  | some e => e
  | none => ⟨statusText status, Text.quoted body, "Failed to parse error data", status⟩

end ErrorReport

end Http

/-! ## Objects -/

namespace Object

def ownerSchema : Schema :=
  .record "OwnerReference"
    [Schema.required "apiVersion", Schema.optional "blockOwnerDeletion" .boolean,
      Schema.optional "controller" .boolean, Schema.required "kind", Schema.required "name",
      Schema.required "uid"]

def managedSchema : Schema :=
  .record "ManagedFieldsEntry"
    [Schema.optional "apiVersion" .text, Schema.optional "fieldsType" .text,
      Schema.optional "fieldsV1" .anything, Schema.optional "manager" .text,
      Schema.optional "operation" .text, Schema.optional "subresource" .text,
      Schema.optional "time" .time]

def metaSchema : Schema :=
  .record "ObjectMeta"
    [Schema.optional "annotations" .textMap, Schema.optional "creationTimestamp" .time,
      Schema.optional "deletionGracePeriodSeconds" .int64,
      Schema.optional "deletionTimestamp" .time,
      Schema.optional "finalizers" (.list .text), Schema.optional "generateName" .text,
      Schema.optional "generation" .int64, Schema.optional "labels" .textMap,
      Schema.optional "managedFields" (.list managedSchema), Schema.optional "name" .text,
      Schema.optional "namespace" .text, Schema.optional "ownerReferences" (.list ownerSchema),
      Schema.optional "resourceVersion" .text, Schema.optional "selfLink" .text,
      Schema.optional "uid" .text]

def requirementSchema : Schema :=
  .record "LabelSelectorRequirement"
    [Schema.required "key", Schema.required "operator", Schema.optional "values" (.list .text)]

def labelSelectorSchema : Schema :=
  .record "LabelSelector"
    [Schema.optional "matchExpressions" (.list requirementSchema),
      Schema.optional "matchLabels" .textMap]

def templateSchema : Schema :=
  .record "PodTemplateSpec" [Schema.optional "metadata" metaSchema]

/-- The part of a specification that matters here. -/
def specSchema : Resource → Schema
  | .pod => .record "PodSpec" []
  | .service => .record "ServiceSpec"
    [Schema.optional "clusterIP" .text, Schema.optional "selector" .textMap,
      Schema.optional "type" .text]
  | .deployment => .record "DeploymentSpec"
    [Schema.optional "minReadySeconds" .int32, Schema.optional "paused" .boolean,
      Schema.optional "replicas" .int32, Schema.optional "selector" labelSelectorSchema,
      Schema.optional "template" templateSchema]
  | .replicaSet => .record "ReplicaSetSpec"
    [Schema.optional "minReadySeconds" .int32, Schema.optional "replicas" .int32,
      Schema.optional "selector" labelSelectorSchema, Schema.optional "template" templateSchema]
  | .daemonSet => .record "DaemonSetSpec"
    [Schema.optional "minReadySeconds" .int32, Schema.optional "selector" labelSelectorSchema,
      Schema.optional "template" templateSchema]

/-- An object of a kind, without its version and kind. -/
def schema (r : Resource) : Schema :=
  .record r.kind [Schema.optional "metadata" metaSchema, Schema.optional "spec" (specSchema r)]

/-- Version and kind, if both are there. -/
def typeMembers (members : Members) : Members :=
  match members.lookup "apiVersion", members.lookup "kind" with
  | some (.str v), some (.str k) => [("apiVersion", .str v), ("kind", .str k)]
  | _, _ => []

/-- An object of whatever kind: known metadata only, all else as it is. -/
def read : Json → Except Mismatch Members
  | .obj members => do
    let metadata ← metaSchema.read ((members.lookup "metadata").getD (.obj []))
    let rest := members.filter fun (k, _) => k ≠ "apiVersion" && k ≠ "kind" && k ≠ "metadata"
    return Json.sortMembers (typeMembers members ++ rest ++ [("metadata", metadata)])
  | j => Schema.expect "struct DynamicObject" j

def readAll : List Json → Except Mismatch (List Members)
  | [] => .ok []
  | j :: rest => do
    let first ← read j
    let more ← readAll rest
    return first :: more

end Object

/-! ## Pages -/

namespace Page

def metaSchema : Schema :=
  .record "ListMeta"
    [Schema.optional "continue" .text, Schema.optional "remainingItemCount" .int64,
      Schema.optional "resourceVersion" .text, Schema.optional "selfLink" .text]

/-- The objects of a page; they may be null. -/
def readItems (members : Members) : Except Mismatch (List Members) :=
  match members.lookup "items" with
  | none => .error (.missing "items")
  | some .null => .ok []
  | some (.arr items) => Object.readAll items
  | some j => Schema.expect "a sequence" j

def read : Json → Except Mismatch Page
  | .obj members => do
    let metadata ← metaSchema.read ((members.lookup "metadata").getD (.obj []))
    let items ← readItems members
    return ⟨items, (metadata.get "continue").asString?⟩
  | j => Schema.expect "struct ObjectList" j

end Page

/-! ## Deletions -/

namespace Deletion

def detailsSchema : Schema :=
  .record "StatusDetails"
    [Schema.optional "causes" (.list .anything), Schema.optional "group" .text,
      Schema.optional "kind" .text, Schema.optional "name" .text,
      Schema.optional "retryAfterSeconds" .int32, Schema.optional "uid" .text]

def statusSchema : Schema :=
  .record "Status"
    [Schema.optional "code" .int32, Schema.optional "details" detailsSchema,
      Schema.optional "message" .text, Schema.optional "metadata" Page.metaSchema,
      Schema.optional "reason" .text, Schema.optional "status" .text]

/-- What comes back for a deleted object: a status, or the object. -/
def isRead (j : Json) : Bool :=
  if j.get "kind" == .str "Status" then
    match statusSchema.read j with
    | .ok s => [Json.null, .str "Success", .str "Failure"].contains (s.get "status")
    | .error _ => false
  else (Object.read j).isOk

end Deletion

/-! ## The library -/

namespace Library.Standard

scoped instance library : Library where
  compile := Pattern.compile
  report := Http.ErrorReport.ofReply
  object body := (Json.read body).toOption.bind fun j => (Object.read j).toOption
  page body := (Json.read body).toOption.bind fun j => (Page.read j).toOption
  deleted body := (Json.read body).toOption.any Deletion.isRead
  adopt j := (Object.read j).mapError Mismatch.message
  decode r object := ((Object.schema r).read object).mapError Mismatch.message
  choose _ _ := 0

end Library.Standard

end ClusterScript
