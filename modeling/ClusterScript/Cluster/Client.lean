import ClusterScript.Fault
import ClusterScript.Json.Printer
import ClusterScript.Query.Basic

/-!
# A client of a cluster

Every operation sends requests, one after the other, and takes one reply for
each. Failures that may pass are tried again, up to three times in all; a
list is read page by page, as long as the cluster names a page to go on with.
Creating and deleting are never tried again.

* `Client.attempt`: one request, with its retries.
* `Client.pages`: all pages of a list.
-/
namespace ClusterScript

/-- The body of a reply with a good status. -/
def Http.Reply.body? [Library] : Http.Reply → Except Http.Failure String
  | .broken text => .error (.connection text)
  | .failure text => .error (.service text)
  | .answer status body =>
    if 400 ≤ status ∧ status < 600 then .error (.api (Library.report status body)) else .ok body

/-- The token that the next page is asked for with: an empty one names none. -/
def Page.following (p : Page) : Option String := p.next.filter fun token => token ≠ ""

/-- The replies still to come, and the requests sent, the latest first. -/
structure Client where
  replies : List Http.Reply
  sent : List Http.Request
deriving Inhabited

namespace Client

open Http

/-- An operation of the client. -/
abbrev Action (α : Type) := Client → Except Failure α × Client

/-- The failure of a client that no reply is left for. -/
def noReply : Reply := .failure "no response left"

/-- Sends a request and takes the next reply. -/
def send [Library] (r : Request) : Action String := fun c =>
  ((c.replies.head?.getD noReply).body?, ⟨c.replies.tail, r :: c.sent⟩)

/-- `MAX_RETRIES`: how often a request is tried. -/
def maxAttempts : Nat := 3

/-- `with_retry`: sends a request, and again after a failure that may pass, `retries` times. -/
def resend [Library] (r : Request) (decode : String → Except Failure α) : Nat → Action α
  | 0, c =>
    let (reply, c) := send r c
    (reply >>= decode, c)
  | retries + 1, c =>
    let (reply, c) := send r c
    match reply >>= decode with
    | .ok v => (.ok v, c)
    | .error f => if f.isTransient then resend r decode retries c else (.error f, c)

/-- One request, with its retries. -/
def attempt [Library] (r : Request) (decode : String → Except Failure α) : Action α :=
  resend r decode (maxAttempts - 1)

/-! ## Addresses -/

/-- The path of a kind, in a namespace or in all. -/
def path (r : Resource) (ns : Option String) : String :=
  (if r.group = "" then s!"/api/{r.version}/" else s!"/apis/{r.group}/{r.version}/") ++
    (ns.map fun n => s!"namespaces/{n}/").getD "" ++ r.plural

/-- A request, unless its address has characters that are not allowed. -/
def request (method target body : String) : Except Failure Request :=
  match uri? target with
  | some uri => .ok ⟨method, uri, body⟩
  | none => .error (.unsendable "failed to build request: invalid uri character")

/-- A request for one object by name. -/
def objectRequest (method : String) (r : Resource) (ns name rest body : String) :
    Except Failure Request :=
  if name = "" then
    .error (.unsendable "failed to validate request: A non-empty name is required")
  else request method (path r (some ns) ++ "/" ++ name ++ rest) body

/-- `PAGE_SIZE`: the number of objects of a page. -/
def pageSize : Nat := 500

def selectorParameter (name selector : String) : String :=
  ((ListOptions.sent? selector).map (parameter name)).getD ""

/-- The request for a page of a list. -/
def pageRequest (r : Resource) (ns : Option String) (o : ListOptions) (token : Option String) :
    Except Failure Request :=
  request "GET"
    (path r ns ++ "?" ++ selectorParameter "fieldSelector" o.fields ++
      selectorParameter "labelSelector" o.labels ++ parameter "limit" (toString pageSize) ++
      (token.map (parameter "continue")).getD "") ""

/-! ## Reading bodies -/

/-- What is read from a body. -/
def readBody (read : String → Option α) (body : String) : Except Failure α :=
  match read body with
  | some a => .ok a
  | none => .error .undecodable

/-- `to_json`: an object with its version and kind, which items of lists lack. -/
def typed (r : Resource) (members : Members) : Json :=
  ((Json.obj members).put "apiVersion" (.str r.apiVersion)).put "kind" (.str r.kind)

section

variable [Library]

def decodeObject : String → Except Failure Members := readBody Library.object

def decodePage : String → Except Failure Page := readBody Library.page

/-- What comes back for a deletion. -/
def decodeDeleted : String → Except Failure Unit :=
  readBody fun body => if Library.deleted body then some () else none

/-! ## Operations -/

/-- Goes on with a request that could be built. -/
def withRequest (r : Except Failure Request) (go : Request → Action α) : Action α := fun c =>
  match r with
  | .ok r => go r c
  | .error f => (.error f, c)

/-- `get`: one object by name. -/
def get (r : Resource) (ns name : String) : Action Json :=
  withRequest (objectRequest "GET" r ns name "" "") fun req c =>
    let (object, c) := attempt req decodeObject c
    (object.map (typed r), c)

/-- `list_all`: the pages from a token on; there are at most `fuel` of them. -/
def pages (r : Resource) (ns : Option String) (o : ListOptions) :
    Nat → Option String → Action (List Members)
  | 0, _, c => (.error (.service "no response left"), c)
  | fuel + 1, token, c =>
    match pageRequest r ns o token with
    | .error f => (.error f, c)
    | .ok req =>
      match attempt req decodePage c with
      | (.error f, c) => (.error f, c)
      | (.ok page, c) =>
        match page.following with
        | none => (.ok page.items, c)
        | some next =>
          let (rest, c) := pages r ns o fuel (some next) c
          (rest.map (page.items ++ ·), c)

/-- `list`: all objects of a list; each page takes a reply, so there are no more pages than
those. -/
def list (r : Resource) (ns : Option String) (o : ListOptions) : Action (List Json) := fun c =>
  let (items, c') := pages r ns o (c.replies.length + 1) none c
  (items.map (List.map (typed r)), c')

/-- `create`: creates an object. -/
def create (r : Resource) (ns : String) (object : Members) : Action Json :=
  withRequest (request "POST" (path r (some ns) ++ "?") (Json.obj object).compact) fun req c =>
    let (reply, c) := send req c
    ((reply >>= decodeObject).map (typed r), c)

/-- `delete`: deletes an object by name. -/
def delete (r : Resource) (ns name : String) : Action Unit :=
  withRequest (objectRequest "DELETE" r ns name "?" "\x7b\x7d") fun req c =>
    let (reply, c) := send req c
    (reply >>= decodeDeleted, c)

/-- `logs`: the log of a pod. -/
def logs (ns pod : String) : Action String :=
  withRequest (objectRequest "GET" .pod ns pod "/log?" "") fun req c => attempt req .ok c

end

end Client

end ClusterScript
