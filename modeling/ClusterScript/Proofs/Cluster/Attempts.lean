import ClusterScript.Proofs.Cluster.Paging
import ClusterScript.Proofs.Cluster.Requests

/-!
# Requests are sent again only while they may succeed

A question to a remote cluster takes one request, a list one for each page. A
request that reads is sent again where the cluster has refused it for the
moment, three times in all; a request that writes is sent once. All questions
share the replies of one client, so what one of them takes is gone for the
next.

* `Exchange`: a request with the replies that were taken for it.
* `Exchange.Within`: an exchange that goes on only after transient refusals.
* `Conducted`: the exchanges of a question, and what comes of them.
* `questions_conducted`: whatever questions are put to a client, each of them
  is conducted, and the client has sent no other request.
-/
namespace ClusterScript.Client

open Http

/-! ## Exchanges -/

/-- A request with its replies, one for each time that it was sent. -/
structure Exchange where
  request : Request
  /-- The replies after which the request was sent again. -/
  passed : List Reply
  /-- The reply that decides. -/
  last : Reply

namespace Exchange

def replies (x : Exchange) : List Reply := x.passed ++ [x.last]

/-- What is sent: the same request each time. -/
def sent (x : Exchange) : List Request := List.replicate x.replies.length x.request

theorem length_sent (x : Exchange) : x.sent.length = x.replies.length := by simp [sent]

theorem reverse_sent (x : Exchange) : x.sent.reverse = x.sent := by simp [sent]

end Exchange

/-! ## Taking replies -/

/-- The reply at a position of a client: those that it has, and `noReply` from then on. -/
def replyAt (c : Client) (i : Nat) : Reply := c.replies.getD i noReply

/-- The next replies of a client. -/
def Draws (c : Client) (replies : List Reply) : Prop :=
  replies = (List.range replies.length).map c.replyAt

section

variable {c : Client} {replies more : List Reply} {requests : List Request}

theorem draws_nil (c : Client) : c.Draws [] := rfl

theorem Takes.draws (h : c.Takes replies) : c.Draws replies := by
  refine List.ext_getElem (by simp) fun i hi _ => ?_
  obtain ⟨left, hleft⟩ := h
  have hstands : (c.replies ++ [noReply])[i]? = some replies[i] := by
    rw [← hleft, List.getElem?_append_left hi, List.getElem?_eq_getElem hi]
  rw [List.getElem_map, List.getElem_range, replyAt, List.getD_eq_getElem?_getD]
  rcases Nat.lt_or_ge i c.replies.length with hlt | hge
  · rw [List.getElem?_append_left hlt] at hstands
    rw [hstands, Option.getD_some]
  · have hlast : noReply = replies[i] := by
      rw [List.getElem?_append_right hge, List.getElem?_singleton] at hstands
      split at hstands
      · exact Option.some.inj hstands
      · cases hstands
    rw [List.getElem?_eq_none hge, Option.getD_none, hlast]

theorem replyAt_after (c : Client) (requests : List Request) (i : Nat) :
    (c.after requests).replyAt i = c.replyAt (requests.length + i) := by
  simp [replyAt, after, List.getD_eq_getElem?_getD]

/-- What is drawn after some requests comes after their replies. -/
theorem Draws.append (h : c.Draws replies) (hlength : requests.length = replies.length)
    (hmore : (c.after requests).Draws more) : c.Draws (replies ++ more) := by
  unfold Draws at h hmore ⊢
  have hrest : more = (List.range more.length).map fun i => c.replyAt (replies.length + i) := by
    rw [hmore]
    simp [replyAt_after, hlength]
  rw [List.length_append, List.range_add, List.map_append, List.map_map, ← h]
  exact congrArg _ hrest

end

/-! ## Failures that may pass -/

/-- What stands in a body is no refusal for the moment. -/
def Plainly {α : Type} (decode : String → Except Failure α) : Prop :=
  ∀ body f, decode body = .error f → f.isTransient = false

theorem plainly_ok : Plainly (.ok : String → Except Failure String) := fun _ _ h => by cases h

/-- A body is undecodable, or it is decoded. -/
theorem plainly_readBody {α : Type} (read : String → Option α) : Plainly (readBody read) := by
  intro body f h
  unfold readBody at h
  split at h
  · cases h
  · cases h
    rfl

/-- The connection broke before there was an answer. -/
def Breaks (reply : Reply) : Prop := ∃ text, reply = .broken text

/-- No connection breaks where none of the replies says so. -/
theorem Draws.not_breaks {c : Client} {replies : List Reply} {reply : Reply} (h : c.Draws replies)
    (hsound : ∀ reply ∈ c.replies, ¬ Breaks reply) (hreply : reply ∈ replies) :
    ¬ Breaks reply := by
  rw [h] at hreply
  obtain ⟨i, -, rfl⟩ := List.mem_map.1 hreply
  unfold replyAt
  cases hi : c.replies[i]? with
  | none =>
    rw [List.getD_eq_getElem?_getD, hi]
    rintro ⟨text, htext⟩
    cases htext
  | some reply =>
    rw [List.getD_eq_getElem?_getD, hi]
    exact hsound reply (List.mem_of_getElem? hi)

variable [Library]

/-- The cluster refuses for the moment: too many requests, or no gateway at hand. -/
def Refuses (reply : Reply) : Prop :=
  ∃ e : ErrorReport, reply.body? = .error (.api e) ∧ (e.code = 429 ∨ e.code = 503 ∨ e.code = 504)

theorem plainly_decodeObject : Plainly decodeObject := plainly_readBody _

theorem plainly_decodePage : Plainly decodePage := plainly_readBody _

theorem plainly_decodeDeleted : Plainly decodeDeleted := plainly_readBody _

/-- The failure may pass. -/
def Transient (reply : Reply) : Prop := Refuses reply ∨ Breaks reply

/-- A request is sent so many times at most, and it is sent again exactly where its failure may
pass and there is a time left. -/
structure Exchange.Within (x : Exchange) (times : Nat) : Prop where
  length_le : x.replies.length ≤ times
  passed : ∀ reply ∈ x.passed, Transient reply
  last : Transient x.last → x.replies.length = times

section

variable {α : Type} {decode : String → Except Failure α} {retries : Nat}
variable {reply : Reply} {replies : List Reply} {outcome : Except Failure α} {f : Failure}

theorem broken_of_connection {text : String} (h : reply.body? = .error (.connection text)) :
    reply = .broken text := by
  cases reply with
  | broken =>
    cases h
    rfl
  | failure => cases h
  | answer status body =>
    rw [Reply.body?] at h
    split at h <;> cases h

theorem transient_iff (hdecode : Plainly decode) :
    Transient reply ↔ ∃ f, reply.body? >>= decode = .error f ∧ f.isTransient = true := by
  constructor
  · rintro (⟨e, hbody, hcode⟩ | ⟨text, rfl⟩)
    · refine ⟨.api e, by rw [hbody]; rfl, ?_⟩
      simpa [Failure.isTransient, or_assoc] using hcode
    · exact ⟨.connection text, rfl, rfl⟩
  · rintro ⟨f, hf, htransient⟩
    cases hbody : reply.body? with
    | ok body =>
      rw [hbody] at hf
      have hplain := hdecode body f hf
      rw [hplain] at htransient
      cases htransient
    | error g =>
      have hg : g = f := by simpa [hbody, bind, Except.bind] using hf
      subst hg
      cases g with
      | api e => exact .inl ⟨e, hbody, by simpa [Failure.isTransient, or_assoc] using htransient⟩
      | connection text => exact .inr ⟨text, broken_of_connection hbody⟩
      | _ => cases htransient

/-- The replies that a request takes are an exchange, and the last one decides. -/
theorem Tried.exchange (hdecode : Plainly decode) (req : Request)
    (h : Tried decode retries replies outcome) :
    ∃ x : Exchange, x.request = req ∧ x.replies = replies ∧ x.Within (retries + 1) ∧
      outcome = x.last.body? >>= decode := by
  induction h with
  | @done retries reply v hreply =>
    refine ⟨⟨req, [], reply⟩, rfl, rfl, ⟨by simp [Exchange.replies], by simp, ?_⟩, hreply.symm⟩
    intro hmay
    obtain ⟨f, hf, -⟩ := (transient_iff hdecode).1 hmay
    rw [hreply] at hf
    cases hf
  | @failed retries reply f hreply hstop =>
    refine ⟨⟨req, [], reply⟩, rfl, rfl, ⟨by simp [Exchange.replies], by simp, ?_⟩, hreply.symm⟩
    intro hmay
    obtain ⟨g, hg, htransient⟩ := (transient_iff hdecode).1 hmay
    rw [hreply] at hg
    cases hg
    rcases hstop with rfl | hlasting
    · rfl
    · rw [hlasting] at htransient
      cases htransient
  | @again retries reply f rest outcome hreply htransient _ ih =>
    obtain ⟨x, hreq, hreplies, hwithin, houtcome⟩ := ih
    have hlength := hwithin.length_le
    refine ⟨⟨req, reply :: x.passed, x.last⟩, rfl, by simp [Exchange.replies, ← hreplies], ?_,
      houtcome⟩
    refine ⟨?_, ?_, fun hmay => ?_⟩
    · simp only [Exchange.replies, List.length_append, List.length_cons] at hlength ⊢
      omega
    · have hfirst : Transient reply := (transient_iff hdecode).2 ⟨f, hreply, htransient⟩
      simpa using ⟨hfirst, hwithin.passed⟩
    · have hfull := hwithin.last hmay
      simp only [Exchange.replies, List.length_append, List.length_cons] at hfull ⊢
      omega

end

section

variable {α : Type} {decode : String → Except Failure α}

/-- A request with its retries is an exchange, and the reply that decides gives its value. -/
theorem resend_exchange (hdecode : Plainly decode) (req : Request) (retries : Nat) (c : Client) :
    ∃ x : Exchange, x.request = req ∧ x.Within (retries + 1) ∧ c.Draws x.replies ∧
      resend req decode retries c = (x.last.body? >>= decode, c.after x.sent) := by
  obtain ⟨replies, htried, htakes, hclient⟩ := resend_tried req decode retries c
  obtain ⟨x, hreq, hreplies, hwithin, houtcome⟩ := htried.exchange hdecode req
  refine ⟨x, hreq, hwithin, hreplies ▸ htakes.draws, Prod.ext houtcome ?_⟩
  rw [hclient, Exchange.sent, hreplies, hreq]

end

/-! ## Questions -/

/-- A failure in the cluster's own words. -/
def worded (f : Failure) : Fault := .cluster f.message

/-- What a reply says to a question: how it comes out, or the objects of a page that names the
token of another. -/
inductive Verdict
  | final (outcome : Except Fault ClusterAnswer)
  | page (items : List Json) (next : String)

end ClusterScript.Client

namespace ClusterScript

open Client

/-- Objects of earlier pages stand before the others. -/
def ClusterAnswer.after (items : List Json) : ClusterAnswer → ClusterAnswer
  | .objects more => .objects (items ++ more)
  | other => other

namespace ClusterRequest

/-- A question that changes the cluster. -/
def Writes : ClusterRequest → Prop
  | .create .. | .delete .. => True
  | _ => False

/-- A question that is answered in pages. -/
def Lists : ClusterRequest → Prop
  | .list .. => True
  | _ => False

/-- How often a request may be sent for a question. -/
def tries : ClusterRequest → Nat
  | .create .. | .delete .. => 1
  | .get .. | .list .. | .logs .. => 3

/-- The request for a question; the token names the page of a list. -/
def request [Library] (token : Option String) : ClusterRequest → Except Fault Http.Request
  | .get r ns name => (objectRequest "GET" r ns name "" "").mapError worded
  | .list r ns o => (pageRequest r ns o token).mapError worded
  | .create r ns object =>
    match Library.adopt object with
    | .ok object =>
      (Client.request "POST" (path r (some ns) ++ "?") (Json.obj object).compact).mapError worded
    | .error text => .error (.conversion text)
  | .delete r ns name => (objectRequest "DELETE" r ns name "?" "\x7b\x7d").mapError worded
  | .logs ns pod => (objectRequest "GET" .pod ns pod "/log?" "").mapError worded

/-- What a reply says to a question. -/
def verdict [Library] (reply : Http.Reply) : ClusterRequest → Verdict
  | .get r _ _ | .create r _ _ =>
    .final (((reply.body? >>= decodeObject).map fun j => .object (typed r j)).mapError worded)
  | .delete _ _ _ =>
    .final (((reply.body? >>= decodeDeleted).map fun _ => .done).mapError worded)
  | .logs _ _ => .final ((reply.body?.map .log).mapError worded)
  | .list r _ _ =>
    match reply.body? >>= decodePage with
    | .error f => .final (.error (worded f))
    | .ok page =>
      match page.following with
      | none => .final (.ok (.objects (page.items.map (typed r))))
      | some token => .page (page.items.map (typed r)) token

end ClusterRequest

end ClusterScript

namespace ClusterScript.Client

open Http

/-- What a list comes to, in the cluster's own words. -/
def listed (r : Resource) (items : Except Failure (List Members)) : Except Fault ClusterAnswer :=
  (items.map fun items => .objects (items.map (typed r))).mapError worded

theorem listed_append {r : Resource} (items : List Members) (more : Except Failure (List Members)) :
    listed r (more.map (items ++ ·)) =
      (listed r more).map (·.after (items.map (typed r))) := by
  cases more with
  | error f => rfl
  | ok more =>
    show (.ok (.objects ((items ++ more).map (typed r))) : Except Fault ClusterAnswer) = _
    rw [List.map_append]
    rfl

variable [Library]

/-- The exchanges of a question, from the page of a token on, and what comes of them. Each of them
is for the request that is due, and its last reply says whether there is another. -/
inductive Conducted (q : ClusterRequest) :
    Option String → List Exchange → Except Fault ClusterAnswer → Prop
  | unsent {token : Option String} {fault : Fault} :
      q.request token = .error fault → Conducted q token [] (.error fault)
  | decided {token : Option String} {x : Exchange} {outcome : Except Fault ClusterAnswer} :
      q.request token = .ok x.request → x.Within q.tries → q.verdict x.last = .final outcome →
        Conducted q token [x] outcome
  | continued {token : Option String} {x : Exchange} {items : List Json} {next : String}
      {rest : List Exchange} {outcome : Except Fault ClusterAnswer} :
      q.request token = .ok x.request → x.Within q.tries → q.verdict x.last = .page items next →
        Conducted q (some next) rest outcome →
        Conducted q token (x :: rest) (outcome.map (·.after items))

section

variable {q : ClusterRequest} {token : Option String} {exchanges others : List Exchange}
variable {outcome other : Except Fault ClusterAnswer}

theorem Conducted.within (h : Conducted q token exchanges outcome) :
    ∀ x ∈ exchanges, x.Within q.tries := by
  induction h with
  | unsent => simp
  | decided _ hwithin _ => simpa using hwithin
  | continued _ hwithin _ _ ih => exact List.forall_mem_cons.2 ⟨hwithin, ih⟩

/-- Only lists have pages. -/
theorem verdict_final (reply : Reply) (h : ¬ q.Lists) : ∃ v, q.verdict reply = .final v := by
  cases q with
  | list => exact absurd trivial h
  | _ => exact ⟨_, rfl⟩

/-- A question that is no list takes one exchange at most. -/
theorem Conducted.length_le (h : Conducted q token exchanges outcome) (hlists : ¬ q.Lists) :
    exchanges.length ≤ 1 := by
  cases h with
  | unsent => exact Nat.zero_le 1
  | decided => exact Nat.le_refl 1
  | @continued _ x _ _ _ _ _ _ hpage _ =>
    obtain ⟨v, hv⟩ := verdict_final x.last hlists
    rw [hv] at hpage
    cases hpage

/-- A question that writes sends one request at most. -/
theorem Conducted.sent_length_le (h : Conducted q token exchanges outcome) (hwrites : q.Writes) :
    (exchanges.flatMap Exchange.sent).length ≤ 1 := by
  have htries : q.tries = 1 := by cases q <;> first | rfl | cases hwrites
  have hlists : ¬ q.Lists := by cases q <;> first | exact id | cases hwrites
  have hwithin := h.within
  have hone := h.length_le hlists
  match exchanges, hone with
  | [], _ => exact Nat.zero_le 1
  | [x], _ =>
    have hx := (hwithin x (List.mem_singleton_self x)).length_le
    rw [htries] at hx
    simpa [Exchange.length_sent] using hx

/-- The replies that decide settle what is asked and what comes of it. -/
theorem Conducted.unique (h : Conducted q token exchanges outcome)
    (hother : Conducted q token others other)
    (hlast : exchanges.map Exchange.last = others.map Exchange.last) :
    exchanges.map Exchange.request = others.map Exchange.request ∧ outcome = other := by
  induction h generalizing others other with
  | unsent hrequest =>
    cases hother with
    | unsent hagain =>
      rw [hrequest] at hagain
      exact ⟨rfl, congrArg Except.error (Except.error.inj hagain)⟩
    | _ => cases hlast
  | @decided _ x _ hrequest _ hfinal =>
    cases hother with
    | unsent => cases hlast
    | @decided _ y _ hagain _ hsame =>
      obtain ⟨heq, -⟩ := List.cons.inj hlast
      rw [heq, hsame] at hfinal
      rw [hrequest] at hagain
      exact ⟨by rw [List.map_singleton, List.map_singleton, Except.ok.inj hagain],
        (Verdict.final.inj hfinal).symm⟩
    | @continued _ y _ _ _ _ _ _ hpage _ =>
      obtain ⟨heq, -⟩ := List.cons.inj hlast
      rw [heq, hpage] at hfinal
      cases hfinal
  | @continued _ x _ _ _ _ hrequest _ hpage _ ih =>
    cases hother with
    | unsent => cases hlast
    | @decided _ y _ _ _ hfinal =>
      obtain ⟨heq, -⟩ := List.cons.inj hlast
      rw [heq, hfinal] at hpage
      cases hpage
    | @continued _ y _ _ _ _ hagain _ hsame hrest =>
      obtain ⟨heq, hmore⟩ := List.cons.inj hlast
      rw [heq, hsame] at hpage
      obtain ⟨rfl, rfl⟩ := Verdict.page.inj hpage
      obtain ⟨hrequests, rfl⟩ := ih hrest hmore
      rw [hrequest] at hagain
      exact ⟨by rw [List.map_cons, List.map_cons, Except.ok.inj hagain, hrequests], rfl⟩

end

/-! ## Single requests -/

/-- A question put to a client, with all that comes of it. -/
structure Call where
  question : ClusterRequest
  exchanges : List Exchange
  outcome : Except Fault ClusterAnswer

namespace Call

def replies (call : Call) : List Reply := call.exchanges.flatMap Exchange.replies

def sent (call : Call) : List Request := call.exchanges.flatMap Exchange.sent

end Call

/-- A client conducts a call: it sends the requests of its exchanges, takes their replies and comes
to its outcome. -/
structure Conducts (c : Client) (call : Call) : Prop where
  conducted : Conducted call.question none call.exchanges call.outcome
  draws : c.Draws call.replies
  answer : call.question.answer (.client c) = call.outcome
  answered : call.question.answered (.client c) = .client (c.after call.sent.reverse)

section

variable {α : Type} {decode : String → Except Failure α}

/-- A question of one request is conducted: without an exchange where the request cannot be built,
and else with one. -/
theorem conducts_of_request {q : ClusterRequest} {c : Client} (hdecode : Plainly decode)
    (built : Except Failure Request) (retries : Nat) (finish : α → ClusterAnswer)
    (hrequest : q.request none = built.mapError worded) (htries : q.tries = retries + 1)
    (hverdict : ∀ reply : Reply, q.verdict reply =
      .final (((reply.body? >>= decode).map finish).mapError worded))
    (hanswer : q.answer (.client c) =
      ((withRequest built (fun req => resend req decode retries) c).1.map finish).mapError worded)
    (hanswered : q.answered (.client c) =
      .client (withRequest built (fun req => resend req decode retries) c).2) :
    ∃ call, call.question = q ∧ c.Conducts call := by
  cases built with
  | error f =>
    refine ⟨⟨q, [], .error (worded f)⟩, rfl, .unsent hrequest, draws_nil c, hanswer, ?_⟩
    rw [hanswered]
    simp [Call.sent, after, withRequest]
  | ok req =>
    obtain ⟨x, hreq, hwithin, hdraws, hsent⟩ := resend_exchange hdecode req retries c
    subst hreq
    refine ⟨⟨q, [x], ((x.last.body? >>= decode).map finish).mapError worded⟩, rfl,
      .decided hrequest (htries ▸ hwithin) (hverdict x.last), ?_, ?_, ?_⟩
    · simpa [Call.replies] using hdraws
    · rw [hanswer, withRequest, hsent]
    · rw [hanswered, withRequest, hsent]
      simp [Call.sent, Exchange.reverse_sent]

end

section

variable (c : Client) (r : Resource) (ns name : String)

theorem conducts_get : ∃ call, call.question = .get r ns name ∧ c.Conducts call := by
  refine conducts_of_request plainly_decodeObject (objectRequest "GET" r ns name "" "") 2
    (fun j => .object (typed r j)) rfl rfl (fun _ => rfl) ?_ ?_
  · simp only [ClusterRequest.answer, Cluster.get, Cluster.remote, get, withRequest]
    cases objectRequest "GET" r ns name "" "" with
    | error f => rfl
    | ok req =>
      dsimp only [attempt, maxAttempts]
      cases (resend req decodeObject 2 c).1 <;> rfl
  · simp only [ClusterRequest.answered, Cluster.get, Cluster.remote, get, withRequest]
    cases objectRequest "GET" r ns name "" "" <;> rfl

theorem conducts_logs (pod : String) :
    ∃ call, call.question = .logs ns pod ∧ c.Conducts call := by
  refine conducts_of_request plainly_ok (objectRequest "GET" .pod ns pod "/log?" "") 2
    .log rfl rfl (fun reply => ?_) ?_ ?_
  · simp only [ClusterRequest.verdict]
    cases reply.body? <;> rfl
  · simp only [ClusterRequest.answer, Cluster.logs, Cluster.remote, logs, withRequest]
    cases objectRequest "GET" .pod ns pod "/log?" "" with
    | error f => rfl
    | ok req =>
      dsimp only [attempt, maxAttempts]
      cases (resend req .ok 2 c).1 <;> rfl
  · simp only [ClusterRequest.answered, Cluster.logs, Cluster.remote, logs, withRequest]
    cases objectRequest "GET" .pod ns pod "/log?" "" <;> rfl

theorem conducts_delete : ∃ call, call.question = .delete r ns name ∧ c.Conducts call := by
  refine conducts_of_request plainly_decodeDeleted
    (objectRequest "DELETE" r ns name "?" "\x7b\x7d") 0 (fun _ => .done) rfl rfl (fun _ => rfl)
    ?_ ?_
  · simp only [ClusterRequest.answer, Cluster.delete, Cluster.remote, delete, withRequest]
    cases objectRequest "DELETE" r ns name "?" "\x7b\x7d" with
    | error f => rfl
    | ok req =>
      dsimp only [resend]
      cases (send req c).1 >>= decodeDeleted <;> rfl
  · simp only [ClusterRequest.answered, Cluster.delete, Cluster.remote, delete, withRequest]
    cases objectRequest "DELETE" r ns name "?" "\x7b\x7d" <;> rfl

/-- An object that the client cannot read is not sent. -/
theorem conducts_create (object : Json) :
    ∃ call, call.question = .create r ns object ∧ c.Conducts call := by
  cases hobject : Library.adopt object with
  | error text =>
    refine ⟨⟨_, [], .error (.conversion text)⟩, rfl, .unsent ?_, draws_nil c, ?_, ?_⟩
    · simp only [ClusterRequest.request, hobject]
    · simp only [ClusterRequest.answer, Cluster.create, hobject]
      rfl
    · simp [ClusterRequest.answered, Cluster.create, hobject, Call.sent, after]
  | ok read =>
    refine conducts_of_request plainly_decodeObject
      (request "POST" (path r (some ns) ++ "?") (Json.obj read).compact) 0
      (fun j => .object (typed r j)) ?_ rfl (fun _ => rfl) ?_ ?_
    · simp only [ClusterRequest.request, hobject]
    · simp only [ClusterRequest.answer, Cluster.create, hobject, Cluster.remote, create,
        withRequest]
      cases request "POST" (path r (some ns) ++ "?") (Json.obj read).compact with
      | error f => rfl
      | ok req =>
        dsimp only [resend]
        cases (send req c).1 >>= decodeObject <;> rfl
    · simp only [ClusterRequest.answered, Cluster.create, hobject, Cluster.remote, create,
        withRequest]
      cases request "POST" (path r (some ns) ++ "?") (Json.obj read).compact <;> rfl

end

/-! ## Lists -/

section

variable {r : Resource} {ns : Option String} {o : ListOptions}

/-- A visit that could ask for its page is an exchange. -/
theorem Visit.Fits.exchange {v : Visit} {req : Request} (h : v.Fits r ns o)
    (hrequest : pageRequest r ns o v.token = .ok req) :
    ∃ x : Exchange, x.request = req ∧ x.Within 3 ∧ x.replies = v.replies ∧
      x.sent = v.requests r ns o ∧ v.outcome = x.last.body? >>= decodePage := by
  unfold Visit.Fits at h
  rw [hrequest] at h
  obtain ⟨x, hreq, hreplies, hwithin, houtcome⟩ := h.exchange plainly_decodePage req
  refine ⟨x, hreq, hwithin, hreplies, ?_, houtcome⟩
  rw [Visit.requests, hrequest, Exchange.sent, hreplies, hreq]

/-- A row of visits is a row of exchanges for the list. -/
theorem Followed.conducted {token : Option String} {visits : List Visit}
    (h : Followed token visits) (hfits : ∀ v ∈ visits, v.Fits r ns o) :
    ∃ exchanges, Conducted (.list r ns o) token exchanges (listed r (gathered visits)) ∧
      exchanges.flatMap Exchange.replies = visits.flatMap Visit.replies ∧
      exchanges.flatMap Exchange.sent = visits.flatMap (Visit.requests r ns o) := by
  induction h with
  | @last v hnext =>
    have hv := hfits v (List.mem_singleton_self v)
    cases hrequest : pageRequest r ns o v.token with
    | error f =>
      have hnone : v.replies = [] ∧ v.outcome = .error f := by
        simpa [Visit.Fits, hrequest] using hv
      refine ⟨[], ?_, by simp [hnone.1], by simp [Visit.requests, hrequest]⟩
      rw [gathered_cons_of_error hnone.2]
      exact .unsent (by simp only [ClusterRequest.request, hrequest]; rfl)
    | ok req =>
      obtain ⟨x, rfl, hwithin, hreplies, hsent, houtcome⟩ := hv.exchange hrequest
      refine ⟨[x], .decided ?_ hwithin ?_, by simp [hreplies], by simp [hsent]⟩
      · simp only [ClusterRequest.request, hrequest]
        rfl
      · simp only [ClusterRequest.verdict, ← houtcome]
        cases hout : v.outcome with
        | error f => rw [gathered_cons_of_error hout]; rfl
        | ok page =>
          have hlast : page.following = none := by
            simpa [Visit.next, hout, Except.toOption] using hnext
          rw [gathered_single hout]
          simp only [hlast]
          rfl
  | @cons v rest next hnext _ _ ih =>
    obtain ⟨hv, hrest⟩ := List.forall_mem_cons.1 hfits
    obtain ⟨exchanges, hconducted, hreplies, hsent⟩ := ih hrest
    -- a visit after which the row goes on has come to a page
    cases hout : v.outcome with
    | error f => simp [Visit.next, hout, Except.toOption] at hnext
    | ok page =>
      have htoken : page.following = some next := by
        simpa [Visit.next, hout, Except.toOption] using hnext
      cases hrequest : pageRequest r ns o v.token with
      | error f => simp [Visit.Fits, hrequest, hout] at hv
      | ok req =>
        obtain ⟨x, rfl, hwithin, hxreplies, hxsent, houtcome⟩ := hv.exchange hrequest
        refine ⟨x :: exchanges, ?_, by simp [hxreplies, hreplies], by simp [hxsent, hsent]⟩
        rw [gathered_cons_of_ok hout, listed_append]
        refine .continued ?_ hwithin ?_ hconducted
        · simp only [ClusterRequest.request, hrequest]
          rfl
        · simp only [ClusterRequest.verdict, ← houtcome, hout, htoken]

theorem conducts_list (c : Client) (r : Resource) (ns : Option String) (o : ListOptions) :
    ∃ call, call.question = .list r ns o ∧ c.Conducts call := by
  obtain ⟨visits, hrow, hfits, htakes, hclient, hitems⟩ :=
    pages_followed r ns o (c.replies.length + 1) none c (Nat.lt_succ_self _)
  obtain ⟨exchanges, hconducted, hreplies, hsent⟩ := hrow.conducted hfits
  refine ⟨⟨_, exchanges, _⟩, rfl, hconducted, ?_, ?_, ?_⟩
  · rw [Call.replies, hreplies]
    exact htakes.draws
  · simp only [ClusterRequest.answer, Cluster.list, Cluster.remote, list, hitems]
    cases gathered visits <;> rfl
  · simp only [ClusterRequest.answered, Cluster.list, Cluster.remote, list, hclient, Call.sent,
      hsent]

end

/-! ## Questions in a row -/

/-- Whatever question is put to a client, the client conducts a call for it. -/
theorem question_conducts (q : ClusterRequest) (c : Client) :
    ∃ call, call.question = q ∧ c.Conducts call := by
  cases q with
  | get r ns name => exact conducts_get c r ns name
  | list r ns o => exact conducts_list c r ns o
  | create r ns object => exact conducts_create c r ns object
  | delete r ns name => exact conducts_delete c r ns name
  | logs ns pod => exact conducts_logs c ns pod

/-- Questions in a row are calls in a row. -/
theorem questions_called (questions : List ClusterRequest) (c : Client) :
    ∃ calls : List Call,
      calls.map Call.question = questions ∧
      ClusterRequest.putAll questions (.client c) =
        (calls.map Call.outcome, .client (c.after (calls.flatMap Call.sent).reverse)) ∧
      c.Draws (calls.flatMap Call.replies) ∧
      ∀ call ∈ calls, Conducted call.question none call.exchanges call.outcome := by
  induction questions generalizing c with
  | nil => exact ⟨[], rfl, by simp [ClusterRequest.putAll, after], draws_nil c, by simp⟩
  | cons q questions ih =>
    obtain ⟨call, rfl, hconducts⟩ := question_conducts q c
    obtain ⟨calls, rfl, hput, hdraws, hall⟩ := ih (c.after call.sent.reverse)
    have hlength : call.sent.reverse.length = call.replies.length := by
      simp [Call.sent, Call.replies, List.length_flatMap, Exchange.length_sent]
    refine ⟨call :: calls, rfl, ?_, ?_, List.forall_mem_cons.2 ⟨hconducts.conducted, hall⟩⟩
    · rw [ClusterRequest.putAll, hconducts.answered, hput, hconducts.answer, after_after]
      simp
    · simpa using hconducts.draws.append hlength hdraws

/-- Whatever questions are put to a client, one after the other: it sends nothing but the requests
of one call for each of them, and takes the replies in their order. Every exchange of a call sends
one request, three times at most and once for a question that writes, and again only where its
failure may pass: where the cluster has refused it for the moment, or the connection broke. There
is one exchange at most unless the question is a list, and the last replies of the exchanges settle
the outcome, whatever was replied before. If no connection breaks, a request is sent again only
where the cluster has refused it for the moment. -/
theorem questions_conducted (questions : List ClusterRequest) (c : Client) :
    ∃ calls : List Call,
      calls.map Call.question = questions ∧
      ClusterRequest.putAll questions (.client c) =
        (calls.map Call.outcome, .client (c.after (calls.flatMap Call.sent).reverse)) ∧
      c.Draws (calls.flatMap Call.replies) ∧
      ∀ call ∈ calls,
        Conducted call.question none call.exchanges call.outcome ∧
        (∀ x ∈ call.exchanges, x.Within call.question.tries) ∧
        (call.question.Writes → call.sent.length ≤ 1) ∧
        (¬ call.question.Lists → call.exchanges.length ≤ 1) ∧
        (∀ others other, Conducted call.question none others other →
          call.exchanges.map Exchange.last = others.map Exchange.last → call.outcome = other) ∧
        ((∀ reply ∈ c.replies, ¬ Breaks reply) →
          ∀ x ∈ call.exchanges, ∀ reply ∈ x.passed, Refuses reply) := by
  obtain ⟨calls, hquestions, hput, hdraws, hall⟩ := questions_called questions c
  refine ⟨calls, hquestions, hput, hdraws, fun call hcall => ?_⟩
  have h := hall call hcall
  refine ⟨h, h.within, h.sent_length_le, h.length_le, fun _ _ hother hlast =>
    (h.unique hother hlast).2, fun hsound x hx reply hreply => ?_⟩
  have htaken : reply ∈ calls.flatMap Call.replies :=
    List.mem_flatMap.2 ⟨call, hcall, List.mem_flatMap.2 ⟨x, hx, List.mem_append_left _ hreply⟩⟩
  exact ((h.within x hx).passed reply hreply).resolve_right (hdraws.not_breaks hsound htaken)

end ClusterScript.Client
