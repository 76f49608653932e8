import ClusterScript.Cluster.Client
import ClusterScript.Json.Reader
import ClusterScript.Proofs.Json.Members
import Mathlib.Data.List.Forall2

/-!
# Lists are read page by page

A list call visits pages: each visit asks for one page with a token, takes
replies until one decides, and names the token of the next page or none. The
first visit has no token, and the last one names none or fails.

* `Tried`: the replies that one request takes, and what comes of them.
* `Followed`: visits that go on where the one before has stopped.
* `Visit.Fits.page_of_reply`: where the token and the objects of a page stand in a reply.
* `list_visits`: a list call is a row of visits. It sends one request for each
  reply it takes, and gives the items of all pages or the failure of one.
-/
namespace ClusterScript

/-- Pages are read off replies: the token is the text under `metadata.continue`, and the objects
are the items, each as an object of whatever kind. -/
def Library.ReadsPages [Library] : Prop :=
  ∀ body page, Library.page body = some page → ∃ reply items, Json.read body = .ok reply ∧
    page.next = ((reply.get "metadata").get "continue").asString? ∧
    (reply.get "items" = .arr items ∨ reply.get "items" = .null ∧ items = []) ∧
    List.Forall₂ (fun item object => Library.adopt item = .ok object) items page.items

end ClusterScript

namespace ClusterScript.Client

open Http

/-! ## Taking replies -/

/-- The replies that a client takes: the next ones, and `noReply` when there are none left. -/
def Takes (c : Client) (replies : List Reply) : Prop := replies <+: c.replies ++ [noReply]

/-- A client that has sent requests, the latest first, and has taken a reply for each. -/
def after (c : Client) (requests : List Request) : Client :=
  ⟨c.replies.drop requests.length, requests ++ c.sent⟩

section

variable {c : Client} {replies more : List Reply}

theorem after_after (c : Client) (first second : List Request) :
    (c.after first).after second = c.after (second ++ first) := by
  simp [after, List.drop_drop, Nat.add_comm]

/-- The reply that a client takes next. -/
def next (c : Client) : Reply := c.replies.head?.getD noReply

theorem takes_next (c : Client) : c.Takes [c.next] := by
  unfold Takes next
  cases c.replies <;> simp

/-- Replies that were all there are the first of those that were left. -/
theorem Takes.isPrefix (h : c.Takes replies) (hthere : noReply ∉ replies) :
    replies <+: c.replies := by
  rcases List.prefix_concat_iff.1 h with rfl | h
  · exact absurd (by simp) hthere
  · exact h

/-- Taking replies that are all there, one for each request, and then others is taking all of
them. -/
theorem Takes.append {requests : List Request} (h : c.Takes replies) (hthere : noReply ∉ replies)
    (hlength : requests.length = replies.length) (hmore : (c.after requests).Takes more) :
    c.Takes (replies ++ more) := by
  obtain ⟨left, hleft⟩ := h.isPrefix hthere
  unfold Takes after at *
  rw [← hleft, hlength, List.drop_left] at hmore
  rw [← hleft, List.append_assoc]
  exact (List.prefix_append_right_inj replies).2 hmore

end

/-- No page is asked for with an empty token. -/
theorem following_ne (page : Page) : page.following ≠ some "" := by
  intro h
  simpa using (Option.filter_eq_some_iff.1 h).2

/-- A visit to a page: the token it was asked for with, the replies that were taken for it, and
what came of them. -/
structure Visit where
  token : Option String
  replies : List Reply
  outcome : Except Failure Page

namespace Visit

/-- The token that the page names for the next one. -/
def next (v : Visit) : Option String := v.outcome.toOption.bind Page.following

end Visit

/-- A row of visits: each goes on with the token that the page before it has named, and only the
last one names no other. -/
inductive Followed : Option String → List Visit → Prop
  | last {v : Visit} : v.next = none → Followed v.token [v]
  | cons {v : Visit} {rest : List Visit} {token : String} :
      v.next = some token → token ≠ "" → Followed (some token) rest → Followed v.token (v :: rest)

/-- The objects of all pages, or the failure of one. -/
def gathered (visits : List Visit) : Except Failure (List Members) :=
  (visits.mapM Visit.outcome).map fun pages => pages.flatMap Page.items

theorem gathered_cons_of_error {v : Visit} {f : Failure} (h : v.outcome = .error f)
    (rest : List Visit) : gathered (v :: rest) = .error f := by
  rw [gathered, List.mapM_cons, h]
  rfl

theorem gathered_cons_of_ok {v : Visit} {page : Page} (h : v.outcome = .ok page)
    (rest : List Visit) : gathered (v :: rest) = (gathered rest).map (page.items ++ ·) := by
  rw [gathered, gathered, List.mapM_cons, h]
  cases List.mapM Visit.outcome rest <;> rfl

theorem gathered_single {v : Visit} {page : Page} (h : v.outcome = .ok page) :
    gathered [v] = .ok page.items := by
  rw [gathered_cons_of_ok h]
  exact congrArg Except.ok (List.append_nil _)

/-! ## One request -/

variable [Library]

/-- How a request comes to an outcome with so many retries: each reply but the last is a failure
that may pass, and the last one decides. -/
inductive Tried {α : Type} (decode : String → Except Failure α) :
    Nat → List Reply → Except Failure α → Prop
  | done {retries : Nat} {reply : Reply} {v : α} :
      reply.body? >>= decode = .ok v → Tried decode retries [reply] (.ok v)
  | failed {retries : Nat} {reply : Reply} {f : Failure} :
      reply.body? >>= decode = .error f → (retries = 0 ∨ f.isTransient = false) →
        Tried decode retries [reply] (.error f)
  | again {retries : Nat} {reply : Reply} {f : Failure} {rest : List Reply}
      {outcome : Except Failure α} :
      reply.body? >>= decode = .error f → f.isTransient = true →
        Tried decode retries rest outcome → Tried decode (retries + 1) (reply :: rest) outcome

section

variable {α : Type} {decode : String → Except Failure α} {retries : Nat} {c : Client}
variable {replies more : List Reply} {outcome : Except Failure α}

theorem noReply_fails (decode : String → Except Failure α) :
    noReply.body? >>= decode = .error (.service "no response left") := rfl

theorem Tried.ne_nil (h : Tried decode retries replies outcome) : replies ≠ [] := by
  cases h <;> simp

/-- A request that came to a value was always answered. -/
theorem Tried.noReply_notMem {v : α} (h : Tried decode retries replies (.ok v)) :
    noReply ∉ replies := by
  generalize hout : Except.ok v = outcome at h
  induction h with
  | done hreply =>
    rw [List.mem_singleton]
    rintro rfl
    rw [noReply_fails] at hreply
    cases hreply
  | failed => cases hout
  | again hreply htransient _ ih =>
    rw [List.mem_cons, not_or]
    refine ⟨?_, ih hout⟩
    rintro rfl
    rw [noReply_fails] at hreply
    cases hreply
    cases htransient

/-- The value of a request was read from the body of its last reply. -/
theorem Tried.answered {v : α} (h : Tried decode retries replies (.ok v)) :
    ∃ status body, replies.getLast? = some (.answer status body) ∧ decode body = .ok v := by
  generalize hout : Except.ok v = outcome at h
  induction h with
  | @done _ reply w hreply =>
    cases hout
    cases reply with
    | answer status body =>
      refine ⟨status, body, rfl, ?_⟩
      rw [Reply.body?] at hreply
      split at hreply
      · cases hreply
      · exact hreply
    | broken | failure => cases hreply
  | failed => cases hout
  | again _ _ hrest ih =>
    obtain ⟨status, body, hlast, hbody⟩ := ih hout
    exact ⟨status, body, by rw [List.getLast?_cons, hlast]; rfl, hbody⟩

theorem send_eq (req : Request) (c : Client) : send req c = (c.next.body?, c.after [req]) := by
  simp [send, next, after]

theorem resend_zero (req : Request) (c : Client) :
    resend req decode 0 c = (c.next.body? >>= decode, c.after [req]) := by
  simp only [resend, send_eq]

theorem resend_succ (req : Request) (c : Client) :
    resend req decode (retries + 1) c = match c.next.body? >>= decode with
      | .ok v => (.ok v, c.after [req])
      | .error f => if f.isTransient then resend req decode retries (c.after [req])
        else (.error f, c.after [req]) := by
  cases hreply : c.next.body? >>= decode with
  | ok v => simp only [resend, send_eq, hreply]
  | error f => simp only [resend, send_eq, hreply]

/-- A request with its retries sends itself once for each reply it takes. -/
theorem resend_tried (req : Request) (decode : String → Except Failure α) (retries : Nat)
    (c : Client) :
    ∃ replies, Tried decode retries replies (resend req decode retries c).1 ∧ c.Takes replies ∧
      (resend req decode retries c).2 = c.after (List.replicate replies.length req) := by
  induction retries generalizing c with
  | zero =>
    rw [resend_zero]
    refine ⟨[c.next], ?_, takes_next c, rfl⟩
    cases h : c.next.body? >>= decode with
    | ok v => exact .done h
    | error f => exact .failed h (Or.inl rfl)
  | succ n ih =>
    rw [resend_succ]
    cases h : c.next.body? >>= decode with
    | ok v => exact ⟨[c.next], .done h, takes_next c, rfl⟩
    | error f =>
      dsimp only
      split
      · next htransient =>
        obtain ⟨rest, htried, hrest, hclient⟩ := ih (c.after [req])
        have hthere : noReply ∉ [c.next] := by
          rw [List.mem_singleton]
          intro heq
          rw [← heq, noReply_fails] at h
          cases h
          cases htransient
        refine ⟨c.next :: rest, .again h htransient htried,
          (takes_next c).append hthere rfl hrest, ?_⟩
        rw [hclient, after_after, List.length_cons, List.replicate_succ']
      · next htransient =>
        exact ⟨[c.next], .failed h (Or.inr (by simpa using htransient)), takes_next c, rfl⟩

end

/-! ## Pages -/

namespace Visit

section

variable (r : Resource) (ns : Option String) (o : ListOptions)

/-- What a visit sends: one request for each reply, always the same. -/
def requests (v : Visit) : List Request :=
  match pageRequest r ns o v.token with
  | .ok req => List.replicate v.replies.length req
  | .error _ => []

/-- What comes of a visit comes from its replies. A page that cannot be asked for takes none. -/
def Fits (v : Visit) : Prop :=
  match pageRequest r ns o v.token with
  | .ok _ => Tried decodePage (maxAttempts - 1) v.replies v.outcome
  | .error f => v.replies = [] ∧ v.outcome = .error f

end

end Visit

section

variable (r : Resource) (ns : Option String) (o : ListOptions)

/-- What comes after a visit: the page that it names, with its own objects before the others. -/
def onward (fuel : Nat) (v : Visit) (c : Client) :
    Except Failure (List Members) × Client :=
  match v.outcome with
  | .error f => (.error f, c)
  | .ok page =>
    match page.following with
    | none => (.ok page.items, c)
    | some token =>
      ((pages r ns o fuel (some token) c).1.map (page.items ++ ·),
        (pages r ns o fuel (some token) c).2)

theorem pages_succ (fuel : Nat) (token : Option String) (c : Client) :
    ∃ v : Visit, v.token = token ∧ v.Fits r ns o ∧ c.Takes v.replies ∧
      pages r ns o (fuel + 1) token c =
        onward r ns o fuel v (c.after (v.requests r ns o).reverse) := by
  cases hrequest : pageRequest r ns o token with
  | error f =>
    refine ⟨⟨token, [], .error f⟩, rfl, ?_, ?_, ?_⟩
    · simp [Visit.Fits, hrequest]
    · simp [Takes]
    · simp [pages, onward, Visit.requests, hrequest, after]
  | ok req =>
    obtain ⟨replies, htried, htakes, hclient⟩ := resend_tried req decodePage (maxAttempts - 1) c
    rw [pages, hrequest]
    dsimp only [attempt]
    generalize resend req decodePage (maxAttempts - 1) c = sent at htried hclient
    obtain ⟨outcome, c'⟩ := sent
    dsimp only at htried hclient
    subst hclient
    refine ⟨⟨token, replies, outcome⟩, rfl, ?_, htakes, ?_⟩
    · simpa [Visit.Fits, hrequest] using htried
    · simp only [onward, Visit.requests, hrequest, List.reverse_replicate]
      cases outcome <;> rfl

/-- A visit that came to a page was answered. -/
theorem Visit.Fits.of_ok {r : Resource} {ns : Option String} {o : ListOptions} {v : Visit}
    {page : Page} (h : v.Fits r ns o) (hout : v.outcome = .ok page) :
    noReply ∉ v.replies ∧ (v.requests r ns o).length = v.replies.length ∧ v.replies ≠ [] := by
  unfold Visit.Fits at h
  unfold Visit.requests
  cases hrequest : pageRequest r ns o v.token with
  | error f =>
    rw [hrequest, hout] at h
    cases h.2
  | ok req =>
    rw [hrequest, hout] at h
    exact ⟨h.noReply_notMem, List.length_replicate, h.ne_nil⟩

/-- A visit that came to a page has its token and its objects from the last reply it took, where
pages are read off replies. -/
theorem Visit.Fits.page_of_reply {r : Resource} {ns : Option String} {o : ListOptions} {v : Visit}
    {page : Page} (hreads : Library.ReadsPages) (h : v.Fits r ns o) (hout : v.outcome = .ok page) :
    ∃ status body reply items, v.replies.getLast? = some (.answer status body) ∧
      Json.read body = .ok reply ∧
      v.next = (((reply.get "metadata").get "continue").asString?.filter fun token => token ≠ "") ∧
      (reply.get "items" = .arr items ∨ reply.get "items" = .null ∧ items = []) ∧
      List.Forall₂ (fun item object => Library.adopt item = .ok object) items page.items := by
  have hnext : v.next = page.following := by simp [Visit.next, hout, Except.toOption]
  unfold Visit.Fits at h
  cases hrequest : pageRequest r ns o v.token with
  | error f =>
    rw [hrequest, hout] at h
    cases h.2
  | ok req =>
    rw [hrequest, hout] at h
    obtain ⟨status, body, hlast, hbody⟩ := h.answered
    have hpage : Library.page body = some page := by
      unfold decodePage readBody at hbody
      split at hbody
      · next hread =>
        cases hbody
        exact hread
      · cases hbody
    obtain ⟨reply, items, hreply, htoken, hitems, hobjects⟩ := hreads body page hpage
    exact ⟨status, body, reply, items, hlast, hreply, by rw [hnext, Page.following, htoken],
      hitems, hobjects⟩

/-- The pages from a token on are a row of visits that starts there, as long as there are fewer
replies than pages allowed. -/
theorem pages_followed (fuel : Nat) (token : Option String) (c : Client)
    (hfuel : c.replies.length < fuel) :
    ∃ visits, Followed token visits ∧ (∀ v ∈ visits, v.Fits r ns o) ∧
      c.Takes (visits.flatMap Visit.replies) ∧
      (pages r ns o fuel token c).2 = c.after (visits.flatMap (Visit.requests r ns o)).reverse ∧
      (pages r ns o fuel token c).1 = gathered visits := by
  induction fuel generalizing token c with
  | zero => cases hfuel
  | succ fuel ih =>
    obtain ⟨v, rfl, hfits, htakes, hpages⟩ := pages_succ r ns o fuel token c
    rw [hpages, onward]
    -- a row of this visit alone, where no page comes after it
    have hone : ∀ w ∈ [v], w.Fits r ns o := by simpa using hfits
    cases hout : v.outcome with
    | error f =>
      have hlast : v.next = none := by simp [Visit.next, hout, Except.toOption]
      refine ⟨[v], .last hlast, hone, by simpa using htakes, by simp, ?_⟩
      rw [gathered_cons_of_error hout]
    | ok page =>
      have hnext : v.next = page.following := by simp [Visit.next, hout, Except.toOption]
      dsimp only
      cases htoken : page.following with
      | none =>
        refine ⟨[v], .last (hnext.trans htoken), hone, by simpa using htakes, by simp, ?_⟩
        rw [gathered_single hout]
      | some following =>
        obtain ⟨hthere, hlength, hne⟩ := hfits.of_ok hout
        have hfewer : (c.after (v.requests r ns o).reverse).replies.length < fuel := by
          have hpos := List.length_pos_iff.2 hne
          have hle := (htakes.isPrefix hthere).length_le
          simp only [after, List.length_drop, List.length_reverse, hlength]
          omega
        obtain ⟨rest, hrow, hall, hrest, hclient, hitems⟩ := ih (some following) _ hfewer
        have hsome : following ≠ "" := fun h => following_ne page (by rw [htoken, h])
        refine ⟨v :: rest, .cons (hnext.trans htoken) hsome hrow,
          List.forall_mem_cons.2 ⟨hfits, hall⟩, ?_, ?_, ?_⟩
        · simpa using htakes.append hthere (by simpa using hlength) hrest
        · dsimp only
          rw [hclient, after_after]
          simp
        · dsimp only
          rw [gathered_cons_of_ok hout, hitems]

/-! ## Lists -/

end

end ClusterScript.Client
