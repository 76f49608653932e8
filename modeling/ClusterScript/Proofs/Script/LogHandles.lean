import ClusterScript.Cluster.Decoding
import ClusterScript.Proofs.Script.NamedCalls
import ClusterScript.Proofs.Script.ObjectCalls
import ClusterScript.Proofs.Script.References

/-!
# Handles of logs

A handle keeps the address of a pod and, once it has read the log, its text. A
call that tells of the log reads it if there is no text yet; a script may have
it read again at any time. Whatever else happens in between, the handle asks for
the log of the same pod, an attempt that fails changes nothing that the handle
keeps, and what its methods tell is told of one and the same text.

* `Told`: what the calls tell of a text.
* `call_kept`, `call_needs`, `call_refused`: how a call ends.
* `Acts.keeps`: the text that a handle keeps is the one that was read last.
* `Acts.fetches_once`: between two texts that a script asked for again there is
  at most one more.
* `logs_coherent`: handles at every moment of a session.
-/
namespace ClusterScript.Script

/-- A world in which a handle has read a text. -/
def World.downloaded (w : World) (session : Host) (c : Cluster) (i : Instance)
    (ns pod text : String) : World :=
  { w.onCluster session c with registry := w.registry.update i (.logs ns pod (some text)) }

/-- A function is a method of the class of a handle, with a body, for so many arguments. -/
def World.LogMethod (w : World) (i : Instance) (b : LogBody) (k given : Nat) : Prop :=
  ∃ bm, w.registry.bound[k]? = some bm ∧ bm.cls = i.cls ∧ bm.method.body = .logs b ∧
    bm.method.arity.Admits given

namespace Logs

open Run

section

variable {i : Instance} {w w₁ w₂ : World} {session : Host} {c : Cluster} {f : Fault} {e : Halt}
variable {ns pod text : String} {cached : Option String} {b : LogBody} {v : Value}
variable {args before rest : List Value} {k : Nat}

/-! ## What is wrong with arguments -/

theorem check_grep [Library] (h : args ≠ []) :
    Body.check (.logs .grep) args = (patterns args).map fun _ => () := by
  cases args with
  | nil => exact absurd rfl h
  | cons v rest =>
    simp only [Body.check]
    cases patterns (v :: rest) <;> rfl

theorem check_grep_error [Library] (hbefore : ∀ u ∈ before, ∃ p, u.Denotes p)
    (h : patterns (v :: rest) = .error f) :
    Body.check (.logs .grep) (before ++ v :: rest) = .error f := by
  rw [check_grep (by simp), patterns_error hbefore h]
  rfl

theorem fits_iff [Library] : Fits b args ↔ Body.check (.logs b) args = .ok () := by
  rw [fits_iff_patterns]
  cases b with
  | grep =>
    cases args with
    | nil => simp [Body.check]
    | cons v rest =>
      rw [check_grep (List.cons_ne_nil v rest)]
      cases patterns (v :: rest) <;> simp [Except.map, Except.isOk, Except.toBool]
  | _ => exact ⟨fun _ => rfl, fun _ hgrep => by cases hgrep⟩

/-! ## Single calls -/

/-- What the calls tell of a text, and what they do to tell it: the text itself, its lines, its
lines to print, and those lines that some pattern matches, each with the address in front. -/
inductive Told [Library] (i : Instance) (ns pod text : String) (args : List Value) (w : World) :
    LogBody → List Value → World → Prop
  | refresh : Told i ns pod text args w .refresh [.instance i] w
  | text : Told i ns pod text args w .text [.text text] w
  | lines : Told i ns pod text args w .lines [.table w.tables.size]
      { w with tables := w.tables.push (.ofList ((Text.lines text).map .text)) }
  | puts : Told i ns pod text args w .puts []
      { w with output := w.output ++ (Text.dropFeeds text ++ "\n") }
  | grep {ps : List (String → Bool)} : List.Forall₂ Value.Denotes args ps →
      Told i ns pod text args w .grep [.table w.tables.size]
        { w with tables := w.tables.push (.ofList
          (((Text.lines text).filter fun line => ps.any fun p => p line).map
            fun line => .text ("[" ++ ns ++ "/" ++ pod ++ "] " ++ line))) }

/-- Where a call gets the text from. -/
def source [Library] (b : LogBody) (i : Instance) : Run String :=
  match b with
  | .refresh => download i
  | _ => textOf i

theorem run_contents (hi : w.registry.lookup i = .ok (.logs ns pod cached)) :
    (contents i).run w = .ok (ns, pod, cached) w := run_bind_of_ok (run_lookup hi)

/-- The text that is kept. -/
theorem run_source_kept [Library] (hi : w.registry.lookup i = .ok (.logs ns pod (some text)))
    (hb : b ≠ .refresh) : (source b i).run w = .ok text w := by
  have htext : (textOf i).run w = .ok text w := run_bind_of_ok (run_contents hi)
  cases b with
  | refresh => exact absurd rfl hb
  | _ => exact htext

/-- Where there is no text to go by, the source is the cluster. -/
theorem run_source [Library] (hi : w.registry.lookup i = .ok (.logs ns pod cached))
    (hb : b = .refresh ∨ cached = none) : (source b i).run w = (download i).run w := by
  have htext : cached = none → (textOf i).run w = (download i).run w := by
    rintro rfl
    exact run_bind_of_ok (run_contents hi)
  cases b with
  | refresh => rfl
  | _ => exact htext (hb.resolve_left fun hrefresh => by cases hrefresh)

theorem run_download [Library] (hi : w.registry.lookup i = .ok (.logs ns pod cached))
    (hhost : w.host = some session) (hask : session.cluster.logs ns pod = (.ok text, c)) :
    (download i).run w = .ok text (w.downloaded session c i ns pod text) :=
  (run_bind_of_ok (run_contents hi)).trans (run_bind_of_ok (run_askCluster hhost hask))

theorem run_download_failed [Library] (hi : w.registry.lookup i = .ok (.logs ns pod cached))
    (hhost : w.host = some session) (hask : session.cluster.logs ns pod = (.error f, c)) :
    (download i).run w = .error (.raised (.fault f)) (w.onCluster session c) := by
  have hasked : (askCluster (Cluster.logs ns pod)).run w =
      .error (.raised (.fault f)) (w.onCluster session c) := by
    refine (run_bind_of_ok (run_host hhost)).trans ?_
    rw [hask]
    rfl
  refine (run_bind_of_ok (run_contents hi)).trans ?_
  rw [EStateM.run_bind, hasked]

/-- With patterns, the lines that they match are told of the text. -/
theorem run_grep [Library] (hi : w.registry.lookup i = .ok (.logs ns pod cached))
    (hargs : Fits .grep args) : ∃ ps, List.Forall₂ Value.Denotes args ps ∧
      (grep i args).run w = (textOf i >>= fun text => pure (matching ps ns pod text)).run w := by
  obtain ⟨hne, ps, hps⟩ := hargs rfl
  have hlift : (Run.lift (patterns args)).run w = .ok ps w := by
    rw [patterns_ok_iff.2 hps]
    rfl
  have hsome : ¬args.isEmpty = true := by simpa using hne
  refine ⟨ps, hps, ?_⟩
  rw [grep, if_neg hsome, run_bind_of_ok hlift, run_bind_of_ok (run_contents hi)]

/-- A call whose text is there tells of it. -/
theorem run_perform [Library] (hb : b ≠ .describe)
    (hi : w.registry.lookup i = .ok (.logs ns pod cached))
    (hargs : Fits b args) (hrun : (source b i).run w = .ok text w₁) :
    ∃ vs w₂, (perform i b args).run w = .ok vs w₂ ∧ Told i ns pod text args w₁ b vs w₂ := by
  cases b with
  | describe => exact absurd rfl hb
  | refresh => exact ⟨_, w₁, run_bind_of_ok hrun, .refresh⟩
  | text => exact ⟨_, w₁, run_bind_of_ok hrun, .text⟩
  | lines => exact ⟨_, _, run_bind_of_ok hrun, .lines⟩
  | puts => exact ⟨_, _, run_bind_of_ok hrun, .puts⟩
  | grep =>
    obtain ⟨ps, hps, hgrep⟩ := run_grep hi hargs
    have hmatching : (grep i args).run w = .ok (matching ps ns pod text) w₁ :=
      hgrep.trans (run_bind_of_ok hrun)
    refine ⟨_, _, (run_bind_of_ok hmatching).trans ?_, .grep hps⟩
    rw [matching, List.map_map]
    rfl

/-- A call whose text cannot be had fails as that does. -/
theorem run_perform_failed [Library] (hb : b ≠ .describe)
    (hi : w.registry.lookup i = .ok (.logs ns pod cached))
    (hargs : Fits b args) (hrun : (source b i).run w = .error e w₁) :
    (perform i b args).run w = .error e w₁ := by
  have hafter : ∀ {α : Type} (g : String → Run α), (source b i >>= g).run w = .error e w₁ := by
    intro α g
    rw [EStateM.run_bind, hrun]
  cases b with
  | describe => exact absurd rfl hb
  | grep =>
    obtain ⟨ps, -, hgrep⟩ := run_grep hi hargs
    have hfailed := hgrep.trans (hafter _)
    show (grep i args >>= _).run w = _
    rw [EStateM.run_bind, hfailed]
  | _ => exact hafter _

/-! ## Calls of methods -/

theorem run_logMethod [Library] (h : w.LogMethod i b k args.length) (depth : Nat) :
    (callAt (depth + 1) (.host (.method k)) (.instance i :: args)).run w =
      (perform i b args).run w := by
  obtain ⟨bm, hbound, hcls, hbody, harity⟩ := h
  have hkind : bm.method.body.kind = .ofInstance := by
    rw [hbody]
    rfl
  rw [run_callAt_method hbound hcls hkind harity, hbody]
  rfl

/-- A call whose arguments are wrong is refused before anything is done. -/
theorem call_refused [Library] (h : Body.check (.logs b) args = .error f) :
    (perform i b args).Declines w f ∧ answer w i b args = none := by
  have hrefused : (performOn (callAt 0) i (.logs b) args).Declines w f := performOn_refused h
  refine ⟨hrefused, ?_⟩
  unfold answer
  split
  · rw [if_neg]
    rintro ⟨hargs, -⟩
    cases h.symm.trans (fits_iff.1 hargs)
  · rfl

/-- A handle with a text tells of it, and the cluster is not asked. -/
theorem call_kept [Library] (hi : w.registry.lookup i = .ok (.logs ns pod (some text)))
    (hhost : w.host = some session) (hb : reads b = true) (hargs : Fits b args) :
    (∃ vs w', (perform i b args).run w = .ok vs w' ∧ Told i ns pod text args w b vs w') ∧
      answer w i b args = none := by
  have hne : b ≠ .refresh ∧ b ≠ .describe := by
    constructor <;> (rintro rfl; cases hb)
  refine ⟨run_perform hne.2 hi hargs (run_source_kept hi hne.1), ?_⟩
  rw [answer_eq hi hhost, if_neg]
  rintro ⟨-, hrefresh | ⟨-, hnone⟩⟩
  · exact hne.1 hrefresh
  · cases hnone

/-- A call that needs the log asks the cluster once. If this fails, then so does the call, and
the handle stays as it was; otherwise it keeps the text and tells of it. -/
theorem call_needs [Library] (hi : w.registry.lookup i = .ok (.logs ns pod cached))
    (hhost : w.host = some session) (hneeds : Needs b args cached) :
    (∀ f c, session.cluster.logs ns pod = (.error f, c) →
      (perform i b args).run w = .error (.raised (.fault f)) (w.onCluster session c) ∧
        answer w i b args = some (.error f)) ∧
    ∀ text c, session.cluster.logs ns pod = (.ok text, c) →
      (∃ vs w', (perform i b args).run w = .ok vs w' ∧
        Told i ns pod text args (w.downloaded session c i ns pod text) b vs w') ∧
      answer w i b args = some (.ok text) := by
  obtain ⟨hargs, hb⟩ := hneeds
  have hne : b ≠ .describe := by
    rintro rfl
    rcases hb with h | ⟨h, -⟩ <;> cases h
  have hsource := run_source hi (hb.imp_right And.right)
  have hanswer : answer w i b args = some (session.cluster.logs ns pod).1 := by
    rw [answer_eq hi hhost, if_pos ⟨hargs, hb⟩]
  constructor
  · intro f c hask
    exact ⟨run_perform_failed hne hi hargs (hsource.trans (run_download_failed hi hhost hask)),
      by rw [hanswer, hask]⟩
  · intro text c hask
    exact ⟨run_perform hne hi hargs (hsource.trans (run_download hi hhost hask)),
      by rw [hanswer, hask]⟩

/-- Describing a handle needs neither its text nor the cluster. -/
theorem call_describe [Library] (hi : w.registry.lookup i = .ok (.logs ns pod cached)) :
    (perform i .describe args).run w = .ok [.text s!"PodLogs {ns}/{pod}"] w := by
  rw [perform, run_bind_of_ok (run_contents hi)]
  rfl

end

/-! ## What handles keep -/

/-- The text that an act gives to a handle. -/
def newText? (i : Instance) : Act → Option String
  | .logs j _ _ (some (.ok text)) => if j = i then text else none
  | _ => none

/-- A call on a handle that read the log. -/
def fetches (i : Instance) (act : Act) : Bool := (newText? i act).isSome

/-- A call on a handle that read the log because it was asked for again. -/
def renews (i : Instance) : Act → Bool
  | .logs j .refresh args asked => fetches i (.logs j .refresh args asked)
  | _ => false

/-- The text that a handle keeps after some acts, the latest first. -/
def kept (i : Instance) (cached : Option String) (acts : List Act) : Option String :=
  (acts.findSome? (newText? i)).or cached

section

variable {host : Host} {i j : Instance} {w w' : World} {session : Host} {d : Deed}
variable {act : Act} {acts : List Act} {b : LogBody} {state : InstanceState}
variable {ns pod text : String} {cached : Option String} {args : List Value}

theorem kept_cons : kept i cached (act :: acts) = (newText? i act).or (kept i cached acts) := by
  rw [kept, List.findSome?_cons, kept]
  cases newText? i act <;> rfl

/-- Where no text is kept, no call has read one. -/
theorem countP_fetches_of_kept (h : kept i cached acts = none) : acts.countP (fetches i) = 0 := by
  rw [kept, Option.or_eq_none_iff, List.findSome?_eq_none_iff] at h
  refine List.countP_eq_zero.2 fun act hmem => ?_
  rw [fetches, h.1 act hmem]
  exact nofun

theorem newText?_self : newText? i (.logs i b args (some (.ok text))) = some text := if_pos rfl

theorem newText?_other {asked : Option (Except Fault String)} (h : j ≠ i) :
    newText? i (.logs j b args asked) = none := by
  rcases asked with _ | _ | text
  · rfl
  · rfl
  · exact if_neg h

/-- Deeds that concern no log leave a handle as it is. -/
theorem step_keeps [Library] (hw : w.Furnished) (h : Step w d w') (hd : d.ofLog = false)
    (hi : w.registry.lookup i = .ok (.logs ns pod cached)) :
    w'.registry.lookup i = .ok (.logs ns pod cached) := by
  refine h.lookup_kept hw hi ?_
  rintro new rfl
  cases h.effect hw with
  | changed hold hbecomes =>
    cases hold.symm.trans hi
    cases hbecomes
    cases hd

/-- A call on another handle leaves an instance as it is. -/
theorem lookup_kept_of_leadsOn [Library] (hw : w.Furnished) (h : w.LeadsOn j w') (hj : j ≠ i)
    (hi : w.registry.lookup i = .ok state) : w'.registry.lookup i = .ok state := by
  obtain ⟨deeds, hcourse, hdeeds⟩ := h
  induction hcourse with
  | refl => exact hi
  | @step w₁ w' deeds d hcourse hstep _ ih =>
    have hw₁ := hw.carries (hcourse.steps.carries hw)
    have hi₁ := ih fun j state hmem => hdeeds j state (List.mem_cons_of_mem d hmem)
    refine hstep.lookup_kept hw₁ hi₁ ?_
    rintro new rfl
    exact hj (hdeeds i new List.mem_cons_self).symm

theorem Told.registry [Library] {vs : List Value} (h : Told i ns pod text args w b vs w') :
    w'.registry = w.registry := by
  cases h <;> rfl

/-- A call keeps the text, or is the one that reads a new one. -/
theorem perform_keeps [Library] (hi : w.registry.lookup i = .ok (.logs ns pod cached))
    (hhost : w.host = some session) :
    let new := newText? i (.logs i b args (answer w i b args))
    (perform i b args).Ends w
      (fun _ w' => w'.registry.lookup i = .ok (.logs ns pod (new.or cached)))
      fun w' => w'.registry.lookup i = .ok (.logs ns pod (new.or cached)) := by
  cases hargs : Body.check (.logs b) args with
  | error f =>
    obtain ⟨hrun, hanswer⟩ := call_refused (i := i) (w := w) hargs
    rw [hanswer]
    exact .of_error hrun hi
  | ok _ =>
    have hfits : Fits b args := fits_iff.2 hargs
    by_cases hneeds : Needs b args cached
    · obtain ⟨hfailed, hfetched⟩ := call_needs hi hhost hneeds
      cases hask : session.cluster.logs ns pod with
      | mk result c =>
        cases result with
        | error f =>
          obtain ⟨hrun, hanswer⟩ := hfailed f c hask
          rw [hanswer]
          exact .of_error hrun hi
        | ok text =>
          obtain ⟨⟨vs, w₂, hrun, htold⟩, hanswer⟩ := hfetched text c hask
          rw [hanswer]
          refine .of_ok hrun ?_
          rw [htold.registry]
          exact (Registry.lookup_update hi).2 (by rw [if_pos rfl, newText?_self]; rfl)
    · have hanswer : answer w i b args = none := by rw [answer_eq hi hhost, if_neg hneeds]
      rw [hanswer]
      cases b with
      | describe => exact .of_ok (call_describe hi) hi
      | refresh => exact absurd ⟨hfits, .inl rfl⟩ hneeds
      | _ =>
        cases cached with
        | none => exact absurd ⟨hfits, .inr ⟨rfl, rfl⟩⟩ hneeds
        | some text =>
          obtain ⟨⟨vs, w₂, hrun, htold⟩, -⟩ := call_kept hi hhost rfl hfits
          exact .of_ok hrun (by rw [htold.registry]; exact hi)
end

end Logs

namespace Acts

open Logs

variable [Library] {host : Host} {m : Moment host} {i : Instance} {w : World} {acts : List Act}
variable {ns pod : String} {cached : Option String}

/-- Acts lead from a moment of a session to a later one. -/
theorem moment (h : Acts m.world acts w) : ∃ m' : Moment host, m.Later m' ∧ m'.world = w :=
  m.of_leads h.leads

/-- A handle keeps its address, and of the texts the one that it was given last. -/
theorem keeps (h : Acts m.world acts w)
    (hi : m.world.registry.lookup i = .ok (.logs ns pod cached)) :
    w.registry.lookup i = .ok (.logs ns pod (kept i cached acts)) := by
  induction h with
  | refl => exact hi
  | deed hbefore hstep _ hd ih =>
    obtain ⟨m₁, -, rfl⟩ := hbefore.moment
    exact step_keeps m₁.furnished hstep hd ih
  | @logs w₁ w' acts j b args hbefore hreaches ih =>
    obtain ⟨m₁, -, rfl⟩ := hbefore.moment
    rw [kept_cons]
    by_cases hj : j = i
    · subst hj
      obtain ⟨session, hhost⟩ := m₁.exists_session
      exact hreaches.of_ends (perform_keeps ih hhost)
    · rw [newText?_other hj]
      have hleads := hreaches.of_ends (perform_leads j b args m₁.world)
      exact lookup_kept_of_leadsOn m₁.furnished hleads hj ih

/-- Unless a script has it read again, the log is read once at most. -/
theorem fetches_once (h : Acts m.world acts w)
    (hi : m.world.registry.lookup i = .ok (.logs ns pod cached))
    (hrenews : ∀ act ∈ acts, renews i act = false) : acts.countP (fetches i) ≤ 1 := by
  induction h with
  | refl => exact Nat.zero_le 1
  | deed _ _ _ _ ih =>
    rw [List.countP_cons_of_neg (by exact nofun)]
    exact ih fun act hmem => hrenews act (List.mem_cons_of_mem _ hmem)
  | @logs w₁ w' acts j b args hbefore hreaches ih =>
    obtain ⟨hact, hacts⟩ := List.forall_mem_cons.1 hrenews
    by_cases hfetches : fetches i (.logs j b args (answer w₁ j b args)) = true
    · obtain ⟨m₁, -, rfl⟩ := hbefore.moment
      obtain ⟨session, hhost⟩ := m₁.exists_session
      obtain rfl : j = i := by
        by_contra hj
        rw [fetches, newText?_other hj] at hfetches
        cases hfetches
      have hb : b ≠ .refresh := by
        rintro rfl
        rw [renews, hfetches] at hact
        cases hact
      -- any other call reads the log only where there is no text
      have hnone : kept j cached acts = none := by
        rw [answer_eq (hbefore.keeps hi) hhost] at hfetches
        split at hfetches
        · next hneeds => exact (hneeds.2.resolve_left hb).2
        · cases hfetches
      rw [List.countP_cons_of_pos hfetches, countP_fetches_of_kept hnone]
    · rw [List.countP_cons_of_neg hfetches]
      exact ih hacts

/-- So it is at any time. -/
theorem fetches_once_within {window : List Act} (h : Acts m.world acts w)
    (hi : m.world.registry.lookup i = .ok (.logs ns pod cached)) (hwithin : window <:+: acts)
    (hrenews : ∀ act ∈ window, renews i act = false) : window.countP (fetches i) ≤ 1 := by
  obtain ⟨later, earlier, rfl⟩ := hwithin
  rw [List.append_assoc] at h
  obtain ⟨w₂, hboth, -⟩ := h.split
  obtain ⟨w₁, hearlier, hwindow⟩ := hboth.split
  obtain ⟨m₁, -, rfl⟩ := hearlier.moment
  exact hwindow.fetches_once (hearlier.keeps hi) hrenews

end Acts

/-! ## Sessions -/

/-- The class of log handles has its methods from the start. -/
theorem installed_logMethods :
    ∀ m ∈ Logs.methods, (Engine.installed default).Provides "PodLogs" m := by
  decide +kernel

section

open Run

/-- The `logs` of a pod gives a handle with the address that the pod has then, and no text. -/
theorem Moment.run_logs [Library] {host : Host} (m : Moment host) {o : Instance} {object : Json}
    {ns : String}
    {k : Nat} {bm : BoundMethod} (ho : m.world.registry.lookup o = .ok (.object object))
    (hname : Object.name object ≠ "") (hns : m.world.Locates object ns)
    (hbound : m.world.registry.bound[k]? = some bm) (hcls : bm.cls = o.cls)
    (hmethod : bm.method = ⟨"logs", .exact 0, .object .pod .logs⟩) (depth : Nat) :
    ∃ i w, (callAt (depth + 1) (.host (.method k)) [.instance o]).run m.world =
        .ok [.instance i] w ∧ w.registry.classId? "PodLogs" = some i.cls ∧
      w.registry.lookup i = .ok (.logs ns (Object.name object) none) := by
  obtain ⟨cls, hclass⟩ := m.exists_class
    (installed_logMethods ⟨"text", .exact 0, .logs .text⟩ (by simp [Logs.methods]))
  obtain ⟨hrun, hobject⟩ := Objects.run_callAt_object depth ho hbound hcls hmethod
  let state : InstanceState := .logs ns (Object.name object) none
  have hnew := run_newInstanceOf hclass state
  refine ⟨⟨cls, m.world.registry.slots.size⟩,
    { m.world with registry := m.world.registry.allocated cls state }, ?_,
    (Registry.classId?_allocated "PodLogs").trans hclass, Registry.lookup_allocated⟩
  rw [hrun, Objects.perform, run_bind_of_ok hobject]
  refine (run_bind_of_ok (Objects.run_addressOf hname hns)).trans ?_
  exact run_bind_of_ok hnew

end

/-- **Handles of logs are coherent.** At every moment of a session:

* whatever chunks are evaluated from then on, they are acts, and so is any part of them;
* `logs` of a pod gives a handle with the address that the pod has then;
* whatever calls on a handle and other acts follow, in any order, the handle has its address, and
  as its text the one that it was given last;
* as long as no script has it read again, the log is read at most once;
* while the table of their class is as it was, the methods of handles are found by their names;
* a call of a method is an act, with what the cluster answers if it is asked;
* a call with an argument that is no pattern, because it is no string, no text or does not
  compile, ends with what is wrong with the first such argument, and nothing is done;
* a call that finds a text tells of it, and nothing is asked of the cluster;
* a call that finds none, or is to read the log again, asks the cluster once, for the log at the
  address of the handle. If this fails then so does the call, and the handle stays as it was. -/
theorem logs_coherent [Library] {host : Host} (m : Moment host) :
    (∀ chunks, ∃ acts, Acts m.world acts (evaluated ⟨m.world⟩ chunks).world) ∧
    (∀ later earlier w, Acts m.world (later ++ earlier) w → ∃ m₁ : Moment host, m.Later m₁ ∧
      Acts m.world earlier m₁.world ∧ Acts m₁.world later w) ∧
    (∀ (o : Instance) (object : Json) (ns : String) (depth k : Nat) (bm : BoundMethod),
      m.world.registry.lookup o = .ok (.object object) → Object.name object ≠ "" →
      m.world.Locates object ns → m.world.registry.bound[k]? = some bm → bm.cls = o.cls →
      bm.method = ⟨"logs", .exact 0, .object .pod .logs⟩ →
        ∃ i w, (callAt (depth + 1) (.host (.method k)) [.instance o]).run m.world =
            .ok [.instance i] w ∧ w.registry.classId? "PodLogs" = some i.cls ∧
          w.registry.lookup i = .ok (.logs ns (Object.name object) none)) ∧
    ∀ (i : Instance) (ns pod : String) (cached : Option String),
      m.world.registry.lookup i = .ok (.logs ns pod cached) →
      ∀ (acts : List Act) (w : World), Acts m.world acts w →
        w.registry.lookup i = .ok (.logs ns pod (Logs.kept i cached acts)) ∧
        (∀ window, window <:+: acts → (∀ act ∈ window, Logs.renews i act = false) →
          window.countP (Logs.fetches i) ≤ 1) ∧
        (∃ m' : Moment host, m.Later m' ∧ m'.world = w ∧
          (w.registry.classId? "PodLogs" = some i.cls → m'.Unassigned "PodLogs" →
            ∀ method ∈ Logs.methods, ∃ k bm, w.registry.bound[k]? = some bm ∧ bm.cls = i.cls ∧
              bm.method = method ∧ ∀ call, (index call trapped (.instance i)
                (.text method.name)).run w = .ok (.host (.method k)) w)) ∧
        ∃ session, w.host = some session ∧
          ∀ (depth k : Nat) (b : LogBody) (args : List Value), w.LogMethod i b k args.length →
            let call := callAt (depth + 1) (.host (.method k)) (.instance i :: args)
            (∀ w', call.Reaches w w' → Acts w [.logs i b args (Logs.answer w i b args)] w') ∧
            (b = .grep → args = [] →
              call.Declines w (.refused .noPattern) ∧ Logs.answer w i b args = none) ∧
            (b = .grep → ∀ before v rest, args = before ++ v :: rest →
              (∀ u ∈ before, ∃ p, u.Denotes p) →
              (v.typeName ≠ "string" → call.Declines w (.refused (.patternType v.typeName)) ∧
                Logs.answer w i b args = none) ∧
              (∀ s text, v.hostText = .ok (some s) → Library.compile s = .error text →
                call.Declines w (.refused (.badPattern text)) ∧
                  Logs.answer w i b args = none) ∧
              ∀ f, v.hostText = .error f →
                call.Declines w f ∧ Logs.answer w i b args = none) ∧
            (Logs.Fits b args → Logs.reads b = true →
              ∀ text, Logs.kept i cached acts = some text →
                (∃ vs w', call.run w = .ok vs w' ∧ Logs.Told i ns pod text args w b vs w') ∧
                  Logs.answer w i b args = none) ∧
            (Logs.Needs b args (Logs.kept i cached acts) →
              (∀ f c, session.cluster.logs ns pod = (.error f, c) →
                call.run w = .error (.raised (.fault f)) (w.onCluster session c) ∧
                  Logs.answer w i b args = some (.error f)) ∧
              ∀ text c, session.cluster.logs ns pod = (.ok text, c) →
                (∃ vs w', call.run w = .ok vs w' ∧
                  Logs.Told i ns pod text args (w.downloaded session c i ns pod text) b vs w') ∧
                Logs.answer w i b args = some (.ok text)) := by
  refine ⟨fun chunks => evaluated_does m.furnished chunks, fun later earlier w hacts => ?_,
    fun o object ns depth k bm ho hname hns hbound hcls hmethod =>
      m.run_logs ho hname hns hbound hcls hmethod depth, ?_⟩
  · obtain ⟨w₁, hearlier, hlater⟩ := hacts.split
    obtain ⟨m₁, hm₁, rfl⟩ := hearlier.moment
    exact ⟨m₁, hm₁, hearlier, hlater⟩
  intro i ns pod cached hi acts w hacts
  obtain ⟨m', hlater, rfl⟩ := hacts.moment
  obtain ⟨session, hhost⟩ := m'.exists_session
  have hkept := hacts.keeps hi
  refine ⟨hkept, fun window hwithin hrenews => hacts.fetches_once_within hi hwithin hrenews,
    ⟨m', hlater, rfl, ?_⟩, session, hhost, ?_⟩
  · intro hcls hown method hmem
    exact run_index_answers (m'.answers (installed_logMethods method hmem) hcls hown)
  · intro depth k b args hmethod
    have hrun := Logs.run_logMethod hmethod depth
    have hrefused : ∀ {f}, Body.check (.logs b) args = .error f →
        (callAt (depth + 1) (.host (.method k)) (.instance i :: args)).Declines m'.world f ∧
          Logs.answer m'.world i b args = none := fun hcheck =>
      ⟨hrun.trans (Logs.call_refused hcheck).1, (Logs.call_refused hcheck).2⟩
    refine ⟨fun w' hreaches => ?_, ?_, ?_, fun hfits hreads text htext => ?_, fun hneeds => ?_⟩
    · refine .logs (.refl _) ?_
      unfold Run.Reaches at hreaches ⊢
      rwa [hrun] at hreaches
    · rintro rfl rfl
      exact hrefused rfl
    · rintro rfl before v rest rfl hbefore
      obtain ⟨hconversion, htype, hbad⟩ := Logs.patterns_cons_error v rest
      refine ⟨fun hv => ?_, fun s text hs hp => ?_, fun f hf => ?_⟩
      · exact hrefused (Logs.check_grep_error hbefore (htype (Logs.hostText_of_typeName hv)))
      · exact hrefused (Logs.check_grep_error hbefore (hbad s text hs hp))
      · exact hrefused (Logs.check_grep_error hbefore (hconversion f hf))
    · rw [htext] at hkept
      obtain ⟨⟨vs, w', hcall, htold⟩, hanswer⟩ := Logs.call_kept hkept hhost hreads hfits
      exact ⟨⟨vs, w', hrun.trans hcall, htold⟩, hanswer⟩
    · obtain ⟨hfailed, hfetched⟩ := Logs.call_needs hkept hhost hneeds
      refine ⟨fun f c hask => ?_, fun text c hask => ?_⟩
      · obtain ⟨hcall, hanswer⟩ := hfailed f c hask
        exact ⟨hrun.trans hcall, hanswer⟩
      · obtain ⟨⟨vs, w', hcall, htold⟩, hanswer⟩ := hfetched text c hask
        exact ⟨⟨vs, w', hrun.trans hcall, htold⟩, hanswer⟩

/-- A store with a pod and its log. -/
def webLogs : Store :=
  (Store.empty.seed "Pod" "default" "web" (.obj [])).seedLog "default" "web" "GET /\n"

open Library.Standard

/-- A handle that is asked for the text reads it, and is not to ask again. -/
theorem logs_coherent_web :
    ∃ (m : Moment { (default : Host) with cluster := .store webLogs }) (i : Instance) (w : World),
      m.world.registry.lookup i = .ok (.logs "default" "web" none) ∧
      Acts m.world [.logs i .text [] (some (.ok "GET /\n"))] w ∧
      w.registry.lookup i = .ok (.logs "default" "web" (some "GET /\n")) ∧
      Logs.answer w i .text [] = none := by
  let host : Host := { (default : Host) with cluster := .store webLogs }
  have hmem : ⟨"text", .exact 0, .logs .text⟩ ∈ Logs.methods := by simp [Logs.methods]
  obtain ⟨cls, hcls⟩ := (Moment.first host).exists_class (installed_logMethods _ hmem)
  obtain ⟨m, i, hhost, htables, hclass, hi⟩ :=
    (Moment.first host).exists_instance (.logs "default" "web" none) hcls rfl (.inl rfl)
  have hown : m.Unassigned "PodLogs" := fun cls c _ _ => by
    rw [htables]
    rfl
  rw [Moment.first_host] at hhost
  have hcoherent := (logs_coherent m).2.2.2 i "default" "web" none hi
  -- the first call finds no text
  obtain ⟨-, -, ⟨m₁, -, hm₁, hnamed⟩, session, hsession, hcalls⟩ := hcoherent [] m.world (.refl _)
  cases hhost.symm.trans hsession
  have hown₁ : m₁.Unassigned "PodLogs" := by
    unfold Moment.Unassigned
    rw [hm₁]
    exact hown
  obtain ⟨k, bm, hbound, hbm, hmethod, -⟩ := hnamed hclass hown₁ _ hmem
  have hcall : m.world.LogMethod i .text k 0 :=
    ⟨bm, hbound, hbm, by rw [hmethod], by rw [hmethod]; rfl⟩
  have hlog : webLogs.logs "default" "web" = .ok "GET /\n" := by decide +kernel
  have hasked : host.cluster.logs "default" "web" = (.ok "GET /\n", .store webLogs) := by
    rw [← hlog]
    rfl
  have hfits : Logs.Fits .text [] := fun hgrep => by cases hgrep
  obtain ⟨hact, -, -, -, hneeds⟩ := hcalls 0 k .text [] hcall
  obtain ⟨⟨vs, w, hrun, -⟩, hanswer⟩ := (hneeds ⟨hfits, .inr ⟨rfl, rfl⟩⟩).2 _ _ hasked
  have hacts : Acts m.world [.logs i .text [] (some (.ok "GET /\n"))] w :=
    hanswer ▸ hact w (.inl ⟨vs, hrun⟩)
  -- the second call finds it
  obtain ⟨hkept, -, ⟨m₂, hlater, hm₂, -⟩, session, -, hcalls⟩ := hcoherent _ w hacts
  have hkept' : w.registry.lookup i = .ok (.logs "default" "web" (some "GET /\n")) := by
    simpa [Logs.kept, Logs.newText?] using hkept
  have hcall₂ : w.LogMethod i .text k 0 := by
    refine ⟨bm, ?_, hbm, by rw [hmethod], by rw [hmethod]; rfl⟩
    rw [← hm₂, hlater.carries.bound, hbound]
  obtain ⟨-, -, -, htells, -⟩ := hcalls 0 k .text [] hcall₂
  have hnone := (htells hfits rfl "GET /\n" (by simp [Logs.kept, Logs.newText?])).2
  exact ⟨m, i, w, hi, hacts, hkept', hnone⟩

/-- `pod("web"):logs():grep("\xff", 5)`. -/
def greppingBytes : Chunk :=
  .expr (.method (.method (.call (.var "pod") [.text "web"]) "logs" []) "grep"
    [.bytes [0xFF], .int 5])

/-- How an evaluation fails. -/
def failure? : Except Fault (List Value) × Session → Option Fault
  | (.error f, _) => some f
  | _ => none

/-- A number among the patterns is not what a call is refused for where bytes that are no text
stand before it. -/
theorem bytes_before_number :
    failure? ((Session.new (.store webLogs) "default" .native default ⟨[]⟩ []).evaluate
      greppingBytes) = some (.coercion
        ⟨"string", "&str", some "invalid utf-8 sequence of 1 bytes from index 0"⟩) := by
  decide +kernel

end ClusterScript.Script
