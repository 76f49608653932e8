import ClusterScript.Cluster.Decoding
import ClusterScript.Proofs.Script.Recordings

/-!
# What selectors keep

Scripts that hold collectors and keys come to certain deeds, and a selector
is made when the block of its collector has returned. From then on its text
and the number of its expressions stay as they were, whatever is done with
keys of its collector that are still around.

* `Moment.Does`: an action that comes to one deed, or to none if it fails.
* `readings`: what the methods of a selector tell of it.
* `matches_recorded`: collectors and selectors at every moment of a session.
-/
namespace ClusterScript.Script

open Selector (Kind Expression)

namespace Moment

variable {host : Host}

/-- One deed leads from a moment to the next. -/
def Next [Library] (m : Moment host) (d : Deed) (m' : Moment host) : Prop :=
  Step m.world d m'.world ∧ m'.deeds = d :: m.deeds

/-- An action comes to one deed, which its value tells; if it fails, nothing is done. -/
def Does [Library] {α : Type} (m : Moment host) (act : Run α) (deed : α → Deed → Prop) : Prop :=
  act.Ends m.world (fun v w => ∃ d m', deed v d ∧ m.Next d m' ∧ m'.world = w) (· = m.world)

theorem next_of_step [Library] (m : Moment host) {d : Deed} {w : World} (h : Step m.world d w) :
    ∃ m' : Moment host, m.Next d m' ∧ m'.world = w :=
  ⟨⟨d :: m.deeds, w, m.steps.step h⟩, ⟨h, rfl⟩, rfl⟩

theorem does_of_step [Library] (m : Moment host) {α : Type} {act : Run α} {deed : α → Deed → Prop}
    (h : act.Ends m.world (fun v w => ∃ d, deed v d ∧ Step m.world d w) (· = m.world)) :
    m.Does act deed := by
  refine h.mono (fun v w ⟨d, hdeed, hstep⟩ => ?_) fun _ h => h
  obtain ⟨m', hnext, hworld⟩ := m.next_of_step hstep
  exact ⟨d, m', hdeed, hnext, hworld⟩

end Moment

section

variable {w : World} {P : List Value → World → Prop} {F : World → Prop} {k : Nat}
variable {b : BoundMethod} {args : List Value}

/-- A method on an instance runs its body there, or fails before it does anything. -/
theorem callAt_method_ends [Library] (hbound : w.registry.bound[k]? = some b)
    (hkind : b.method.body.kind = .ofInstance) (hfailed : F w) (depth : Nat)
    (hbody : ∀ depth i rest, args = .instance i :: rest →
      (performOn (callAt depth) i b.method.body rest).Ends w P F) :
    (callAt depth (.host (.method k)) args).Ends w P F := by
  cases depth with
  | zero => exact .of_error rfl hfailed
  | succ depth =>
    refine .bind_of_ok Run.run_registry ?_
    simp only [hbound]
    unfold callMethod
    simp only [hkind]
    cases hreceiver : b.receiver? args with
    | none => exact .refuse hfailed
    | some receiver =>
      obtain ⟨i, rest⟩ := receiver
      exact .liftRefusal_bind (fun _ _ => hbody depth i rest (receiver?_eq_some hreceiver)) hfailed

end

namespace Moment

variable {host : Host} {k : Nat} {b : BoundMethod} {kind : Kind}

/-! ## Keys and matches -/

/-- A match is one deed. -/
theorem does_match [Library] (m : Moment host) {operator : Selector.Operator}
    (hbound : m.world.registry.bound[k]? = some b)
    (hbody : b.method.body = .selector (.compare operator)) (depth : Nat) (args : List Value) :
    m.Does (callAt depth (.host (.method k)) args) fun _ d =>
      ∃ key rest e, args = .instance key :: rest ∧ d = .matched key e := by
  have hkind : b.method.body.kind = .ofInstance := by
    rw [hbody]
    rfl
  refine m.does_of_step (callAt_method_ends (F := (· = m.world)) hbound hkind rfl depth ?_)
  intro depth key rest hargs
  rw [hbody]
  have h := Selectors.compare_ends key operator rest m.world
  have hstep : (Selectors.compare key operator rest).Ends m.world
      (fun _ w => ∃ e, Step m.world (.matched key e) w) (· = m.world) := by
    refine ⟨fun v w hrun => ?_, h.error⟩
    obtain ⟨sink, e, he, -⟩ := h.ok v w hrun
    exact ⟨e, .matched he hrun⟩
  exact .bind hstep fun _ w ⟨e, hstep⟩ => .pure ⟨_, ⟨key, rest, e, hargs, rfl⟩, hstep⟩

/-- Asking a collector for a key by name is one deed. -/
theorem does_name [Library] (m : Moment host) {wanted : Kind}
    (hbound : m.world.registry.bound[k]? = some b)
    (hbody : b.method.body = .selector (.makeKey wanted)) (depth : Nat) (args : List Value) :
    m.Does (callAt depth (.host (.method k)) args) fun values d =>
      ∃ collector rest key, args = .instance collector :: rest ∧ values = [.instance key] ∧
        d = .named collector wanted key := by
  have hkind : b.method.body.kind = .ofInstance := by
    rw [hbody]
    rfl
  refine m.does_of_step (callAt_method_ends (F := (· = m.world)) hbound hkind rfl depth ?_)
  intro depth collector rest hargs
  rw [hbody]
  have h := Selectors.makeKey_ends collector wanted rest m.world
  have hstep : (Selectors.makeKey collector wanted rest).Ends m.world
      (fun v w => ∃ key, v = .instance key ∧ Step m.world (.named collector wanted key) w)
      (· = m.world) := by
    refine ⟨fun v w hrun => ?_, h.error⟩
    obtain ⟨_, _, _, _, key, -, rfl, -⟩ := h.ok v w hrun
    exact ⟨key, rfl, .named hrun⟩
  refine .bind hstep ?_
  rintro v w ⟨key, rfl, hstep⟩
  exact .pure ⟨_, ⟨collector, rest, key, hargs, rfl, rfl⟩, hstep⟩

/-- A longer path on a key is one deed. -/
theorem does_extend [Library] (m : Moment host) {key : Instance} (hkey : m.world.IsKeyOf key kind)
    (name : String) :
    m.Does (trapped (.path kind) key name) fun v d =>
      ∃ longer, v = .instance longer ∧ d = .extended key longer := by
  obtain ⟨c, hc, htrap⟩ := hkey
  have h := Selectors.extendPath_ends kind key name m.world
  refine m.does_of_step ⟨fun v w hrun => ?_, h.error⟩
  obtain ⟨_, _, longer, -, rfl, -⟩ := h.ok v w hrun
  exact ⟨_, ⟨longer, rfl, rfl⟩, .extended hc htrap hrun⟩

/-- Reaching for a member of a collector gives a key that it was opened with, or is one deed. -/
theorem reach_ends [Library] (m : Moment host) (collector : Instance) (name : String) :
    (trapped .key collector name).Ends m.world
      (fun v w => ∃ key, v = .instance key ∧
        ((∃ kind list known, m.world.registry.lookup collector =
            .ok (.collector kind list known) ∧ known.lookup name = some key ∧ w = m.world) ∨
          ∃ m', m.Next (.reached collector key) m' ∧ m'.world = w))
      (· = m.world) := by
  have h := Selectors.collectorKey_ends collector name m.world
  refine ⟨fun v w hrun => ?_, h.error⟩
  obtain ⟨kind, list, known, hc, ⟨key, hkey, rfl, rfl⟩ | ⟨key, rfl, hadds⟩⟩ := h.ok v w hrun
  · exact ⟨key, rfl, .inl ⟨kind, list, known, hc, hkey, rfl⟩⟩
  · exact ⟨key, rfl, .inr (m.next_of_step (.reached hrun hadds.grown))⟩

/-! ## Making selectors -/

/-- A collector is opened, its block has its way, and a selector is made of what the collector
holds when the block has returned. -/
theorem newSelector_ends [Library] (m : Moment host) {call : Caller} (hcall : call.Traced)
    (kind : Kind) (block : Value) :
    (Selectors.newSelector call kind block).Ends m.world
      (fun made w => ∃ collector selector known values,
        ∃ before after done : Moment host, made.1 = .instance selector ∧
          known.map Prod.fst = wellKnownKeys ∧ m.Next (.opened kind collector known) before ∧
          (callFromHost call block [.instance collector]).run before.world =
            .ok values after.world ∧ before.Later after ∧
          after.Next (.closed collector selector) done ∧ done.world = w)
      (fun w => ∃ m', m.Later m' ∧ m'.world = w) := by
  rw [Selectors.newSelector_eq]
  obtain ⟨collector, list, known, w₁, hrun, hopens, hstep⟩ :=
    Selectors.openCollector_opens m.furnished kind
  obtain ⟨before, hbefore, rfl⟩ := m.next_of_step hstep
  have hfailed : ∀ w, before.world.Leads w → ∃ m', m.Later m' ∧ m'.world = w := fun w hlead =>
    m.of_leads ((World.Leads.of_founded hstep (.of_none rfl rfl)).trans hlead)
  have hc : before.world.registry.lookup collector = .ok (.collector kind list known) :=
    (hopens.lookup _ _).2 (.inr (.inr ⟨rfl, rfl⟩))
  refine .bind_of_ok hrun ?_
  have hblock := (callFromHost_traced hcall block [.instance collector]).leads before.furnished
  cases hcalled : (callFromHost call block [.instance collector]).run before.world with
  | error e w => exact .bind_of_error hcalled (hfailed w (hblock.error e w hcalled))
  | ok values w =>
    have hlead := hblock.ok values w hcalled
    obtain ⟨after, hlater, rfl⟩ := before.of_leads hlead
    have hc' := hlater.carries.lookup_fixed rfl hc
    refine .bind_of_ok hcalled ?_
    have hclose := Selectors.closeSelector_ends kind list after.world
    refine ⟨fun made w hrun => ?_, fun e w hrun => ?_⟩
    · obtain ⟨-, selector, hv, -⟩ := hclose.ok made w hrun
      obtain ⟨v, text⟩ := made
      cases hv
      obtain ⟨done, hdone, hworld⟩ := after.next_of_step (.closed hc' hrun)
      exact ⟨collector, selector, known, values, before, after, done, rfl, hopens.names,
        hbefore, hcalled, hlater, hdone, hworld⟩
    · exact hfailed w (hclose.error e w hrun ▸ hlead)

end Moment

/-! ## Reading selectors -/

/-- What the methods of a selector tell of it. -/
def readings (expressions : List Expression) (text : String) : List (String × Value) :=
  [("inspect", .text text), ("to_s", .text text), ("count", .ofNat expressions.length)]

/-- The methods of a selector's class tell what the selector keeps. -/
def World.Tells [Library] (w : World) (s : Instance) (expressions : List Expression)
    (text : String) : Prop :=
  ∀ (depth k : Nat) (b : BoundMethod) (kind : Kind) (v : Value),
    w.registry.bound[k]? = some b → b.cls = s.cls → b.method ∈ Selectors.selectorMethods kind →
      (b.method.name, v) ∈ readings expressions text →
        (callAt (depth + 1) (.host (.method k)) [.instance s]).run w = .ok [v] w

/-- Scripts find these methods by their names, and `tostring` gives the text. -/
def World.Displays [Library] (w : World) (s : Instance) (expressions : List Expression)
    (text : String) : Prop :=
  (∀ depth, (callAt (depth + 2) (.host .tostring) [.instance s]).run w = .ok [.text text] w) ∧
  ∀ (call : Caller) (depth : Nat) (name : String) (v : Value),
    (name, v) ∈ readings expressions text →
      ∃ f, (index call trapped (.instance s) (.text name)).run w = .ok f w ∧
        (callAt (depth + 1) f [.instance s]).run w = .ok [v] w

section

variable {w : World} {s : Instance} {expressions : List Expression} {text name : String}
variable {kind : Kind} {v : Value} {call : Caller} {m : Method}

open Run

theorem performOn_reads [Library] (call : Caller)
    (hs : w.registry.lookup s = .ok (.selector expressions text))
    (hm : m ∈ Selectors.selectorMethods kind) (hread : (m.name, v) ∈ readings expressions text) :
    m.arity.Admits 0 ∧ m.body.kind = .ofInstance ∧
      (performOn call s m.body []).run w = .ok [v] w := by
  have hselector : ∀ f : InstanceState → Run (List Value),
      (Run.lookup s >>= f).run w = (f (.selector expressions text)).run w := fun f =>
    run_bind_of_ok (run_lookup hs)
  simp only [Selectors.selectorMethods, List.mem_cons, List.not_mem_nil, or_false] at hm
  rcases hm with rfl | rfl | rfl | rfl
  · obtain rfl : v = .text text := by simpa [readings] using hread
    exact ⟨rfl, rfl, hselector _⟩
  · obtain rfl : v = .text text := by simpa [readings] using hread
    exact ⟨rfl, rfl, hselector _⟩
  · obtain rfl : v = .ofNat expressions.length := by simpa [readings] using hread
    exact ⟨rfl, rfl, hselector _⟩
  · simp [readings] at hread

/-- The methods of a selector tell what it keeps. -/
theorem run_reading [Library] {k : Nat} {b : BoundMethod}
    (hs : w.registry.lookup s = .ok (.selector expressions text))
    (hbound : w.registry.bound[k]? = some b) (hcls : b.cls = s.cls)
    (hm : b.method ∈ Selectors.selectorMethods kind)
    (hread : (b.method.name, v) ∈ readings expressions text) (depth : Nat) :
    (callAt (depth + 1) (.host (.method k)) [.instance s]).run w = .ok [v] w := by
  obtain ⟨harity, hkind, hrun⟩ := performOn_reads (callAt depth) hs hm hread
  have hcall : (callAt (depth + 1) (.host (.method k)) [.instance s]).run w =
      (performOn (callAt depth) s b.method.body []).run w :=
    run_callAt_method hbound hcls hkind harity
  rw [hcall, hrun]

/-- Where a class shows its methods, scripts find them by their names. -/
theorem index_reading [Library] (hs : w.registry.lookup s = .ok (.selector expressions text))
    (hshows : w.Shows (selectorClass kind) (Selectors.selectorMethods kind) s.cls)
    (hread : (name, v) ∈ readings expressions text) (depth : Nat) :
    ∃ f, (index call trapped (.instance s) (.text name)).run w = .ok f w ∧
      (callAt (depth + 1) f [.instance s]).run w = .ok [v] w := by
  have hname : name ∈ (Selectors.selectorMethods kind).map (·.name) := by
    simp only [readings, List.mem_cons, List.not_mem_nil, or_false, Prod.mk.injEq] at hread
    simp only [Selectors.selectorMethods, List.map_cons, List.map_nil, List.mem_cons]
    obtain ⟨rfl, -⟩ | ⟨rfl, -⟩ | ⟨rfl, -⟩ := hread <;> simp
  obtain ⟨m, hm, rfl⟩ := List.mem_map.1 hname
  obtain ⟨k, b, hbound, hcls, rfl, hindex⟩ := run_index_method hshows hm
  exact ⟨_, hindex, run_reading hs hbound hcls hm hread depth⟩

/-- Calling for the host changes nothing where nothing is raised. -/
theorem run_callFromHost {f : Value} {args values : List Value} {w' : World}
    (h : (call f args).run w = .ok values w') :
    (callFromHost call f args).run w = .ok values w' := by
  have hgives : (call f args).Gives w fun vs w₁ => vs = values ∧ w₁ = w' := .of_ok h ⟨rfl, rfl⟩
  obtain ⟨_, _, hrun, rfl, rfl⟩ := (hgives.tryCatch _).exists_ok
  exact hrun

theorem run_tostring [Library] (hs : w.registry.lookup s = .ok (.selector expressions text))
    (hshows : w.Shows (selectorClass kind) (Selectors.selectorMethods kind) s.cls) (depth : Nat) :
    (callAt (depth + 2) (.host .tostring) [.instance s]).run w = .ok [.text text] w := by
  have hm : ⟨"to_s", .exact 0, .selector .selectorText⟩ ∈ Selectors.selectorMethods kind := by
    simp [Selectors.selectorMethods]
  obtain ⟨k, b, hbound, hcls, hmethod, hmember⟩ := run_classMember_method hshows hm
  have hread : (b.method.name, Value.text text) ∈ readings expressions text := by
    simp [hmethod, readings]
  have hasked := run_callFromHost (run_reading hs hbound hcls (hmethod ▸ hm) hread depth)
  have hdisplay : (display (callAt (depth + 1)) (.instance s)).run w = .ok (.text text) w :=
    (run_bind_of_ok hmember).trans (run_bind_of_ok hasked)
  exact run_bind_of_ok hdisplay

end

namespace Moment

variable {host : Host}

/-- The class of a selector shows its methods as long as its table is as it was. -/
theorem shows [Library] (m : Moment host) {s : Instance} {expressions : List Expression}
    {text : String} (hs : m.world.registry.lookup s = .ok (.selector expressions text))
    (htable : ∀ c, m.world.registry.classes[s.cls]? = some c →
      m.world.tables[c.table]? = (Engine.installed host).tables[c.table]?) :
    ∃ kind, m.world.Shows (selectorClass kind) (Selectors.selectorMethods kind) s.cls := by
  obtain ⟨-, kind, hid⟩ := m.account.closed hs
  obtain ⟨cls, hshows⟩ := installed_shows host kind
  obtain ⟨c, hc, hsize, t, ht, hmember, habsent⟩ := hshows.table
  have hcls : cls = s.cls := by
    have hid' := (m.carries.classId? _).trans hshows.id
    exact Option.some.inj (hid'.symm.trans hid)
  subst hcls
  obtain ⟨c', hc', -, htable', -⟩ := m.carries.classes hc
  refine ⟨kind, hid, c', hc', by omega, t, ?_, ?_, habsent⟩
  · rw [htable c' hc', htable', ht]
  · rw [m.carries.bound]
    exact hmember

/-- What a selector keeps is what its collector held when the selector was made. -/
theorem closed [Library] (m : Moment host) {s : Instance} {expressions : List Expression}
    {text : String} (hs : m.world.registry.lookup s = .ok (.selector expressions text)) :
    ∃ (after : Moment host) (collector : Instance) (kind : Kind) (list : Nat), after.Later m ∧
      .closed collector s :: after.deeds <:+ m.deeds ∧
      after.world.Collects collector kind list ∧
      expressions = after.world.registry.recording list ∧
      Selector.render kind expressions = .ok text := by
  obtain ⟨⟨collector, kind, earlier, hsuffix, hcollects, rfl, hrender⟩, -⟩ := m.account.closed hs
  obtain ⟨later, hdeeds⟩ := (List.suffix_cons _ _).trans hsuffix
  have hsteps := m.steps
  rw [← hdeeds] at hsteps
  obtain ⟨w, hbefore, hafter⟩ := hsteps.split
  let after : Moment host := ⟨earlier, w, hbefore⟩
  obtain ⟨list, hc⟩ := after.account.opened.1 hcollects
  refine ⟨after, collector, kind, list, ⟨later, hafter, hdeeds.symm⟩, hsuffix, hc, ?_, hrender⟩
  rw [Registry.recording, after.account.kept hc, Option.getD_some]

end Moment

/-- **Matches are recorded once, in order and by their own collector, and selectors stay as
they are.** At every moment of a session:

* whatever chunk is evaluated leads to a later moment;
* a match is one deed, and one that fails does nothing; keys come from collectors and from
  other keys by single deeds too;
* each collector holds the matches on the keys attached to it, in their order;
* a selector is made when the block of its collector has returned;
* it keeps what its collector held then, at all later moments: its methods tell this, and
  so does `tostring` while the table of its class is as it was when the session began. -/
theorem matches_recorded [Library] {host : Host} (m : Moment host) :
    (∀ chunk : Chunk, ∃ m' : Moment host,
      m.Later m' ∧ m'.world = (Session.evaluate ⟨m.world⟩ chunk).2.world) ∧
    (∀ (k : Nat) (b : BoundMethod) (depth : Nat) (args : List Value),
      m.world.registry.bound[k]? = some b →
        (∀ operator, b.method.body = .selector (.compare operator) →
          m.Does (callAt depth (.host (.method k)) args) fun _ d =>
            ∃ key rest e, args = .instance key :: rest ∧ d = .matched key e) ∧
        ∀ wanted, b.method.body = .selector (.makeKey wanted) →
          m.Does (callAt depth (.host (.method k)) args) fun values d =>
            ∃ collector rest key, args = .instance collector :: rest ∧
              values = [.instance key] ∧ d = .named collector wanted key) ∧
    (∀ (collector : Instance) (name : String),
      (trapped .key collector name).Ends m.world
        (fun v w => ∃ key, v = .instance key ∧
          ((∃ kind list known, m.world.registry.lookup collector =
              .ok (.collector kind list known) ∧ known.lookup name = some key ∧ w = m.world) ∨
            ∃ m', m.Next (.reached collector key) m' ∧ m'.world = w))
        (· = m.world)) ∧
    (∀ (key : Instance) (kind : Kind) (name : String), m.world.IsKeyOf key kind →
      m.Does (trapped (.path kind) key name) fun v d =>
        ∃ longer, v = .instance longer ∧ d = .extended key longer) ∧
    (∀ collector kind list known,
      m.world.registry.lookup collector = .ok (.collector kind list known) →
        m.world.registry.recording list = matchesOn collector m.deeds) ∧
    (∀ (depth : Nat) (kind : Kind) (block : Value),
      (Selectors.newSelector (callAt depth) kind block).Ends m.world
        (fun made w => ∃ collector selector known values,
          ∃ before after done : Moment host, made.1 = .instance selector ∧
            known.map Prod.fst = wellKnownKeys ∧ m.Next (.opened kind collector known) before ∧
            (callFromHost (callAt depth) block [.instance collector]).run before.world =
              .ok values after.world ∧ before.Later after ∧
            after.Next (.closed collector selector) done ∧ done.world = w)
        (fun w => ∃ m', m.Later m' ∧ m'.world = w)) ∧
    (∀ s expressions text, m.world.registry.lookup s = .ok (.selector expressions text) →
      (∃ (after : Moment host) (collector : Instance) (kind : Kind) (list : Nat),
        after.Later m ∧ .closed collector s :: after.deeds <:+ m.deeds ∧
        after.world.Collects collector kind list ∧
        expressions = after.world.registry.recording list ∧
        Selector.render kind expressions = .ok text) ∧
      ∀ m' : Moment host, m.Later m' →
        m'.world.registry.lookup s = .ok (.selector expressions text) ∧
        m'.world.Tells s expressions text ∧
        ((∀ c, m'.world.registry.classes[s.cls]? = some c →
            m'.world.tables[c.table]? = (Engine.installed host).tables[c.table]?) →
          m'.world.Displays s expressions text)) := by
  refine ⟨m.evaluate_later, fun k b depth args hbound => ⟨fun operator hbody => ?_,
    fun wanted hbody => ?_⟩, m.reach_ends, fun key kind name hkey => m.does_extend hkey name, ?_,
    fun depth => m.newSelector_ends (callAt_traced depth), ?_⟩
  · exact m.does_match hbound hbody depth args
  · exact m.does_name hbound hbody depth args
  · intro collector kind list known hc
    rw [Registry.recording, m.account.kept ⟨known, hc⟩, Option.getD_some]
  · intro s expressions text hs
    refine ⟨m.closed hs, fun m' hlater => ?_⟩
    have hs' := hlater.carries.lookup_fixed rfl hs
    refine ⟨hs', fun depth k b kind v hbound hcls hm hread => ?_, fun htable => ?_⟩
    · exact run_reading hs' hbound hcls hm hread depth
    · obtain ⟨kind, hshows⟩ := m'.shows hs' htable
      exact ⟨run_tostring hs' hshows, fun call depth name v hread =>
        index_reading hs' hshows hread depth⟩

/-! ## Class tables that scripts change -/

/-- A script that asks a selector for its text before and after it replaces `to_s`:
`s = labels(type); local before = tostring(s); kube.LabelSelector.to_s = type;
return before, tostring(s)`. -/
def reassigning : List Stmt :=
  [.assign "s" (.call (.var "labels") [.var "type"]),
    .declare "before" (.call (.var "tostring") [.var "s"]),
    .assignIndex (.index (.var "kube") (.text "LabelSelector")) (.text "to_s") (.var "type"),
    .ret [.var "before", .call (.var "tostring") [.var "s"]]]

/-- The two results of a chunk that gives two texts. -/
def twoTexts : Except Fault (List Value) → Option (String × String)
  | .ok [.text first, .text second] => some (first, second)
  | _ => none

open Library.Standard

/-- The text that `tostring` gives of a selector is not safe from its class. -/
theorem tostring_reassigned :
    twoTexts (Session.evaluate ⟨Engine.installed default⟩ (.block reassigning)).1 =
      some ("", "userdata") := by
  have hstraight : runChunk callValue (.block reassigning) = (do
      let s := firstOf (← results callValue [] (.call (.var "labels") [.var "type"]))
      Locals.set [] "s" s
      let before := firstOf (← results callValue [] (.call (.var "tostring") [.var "s"]))
      let locals ← Locals.declare [] "before" before
      let o := firstOf (← results callValue locals (.index (.var "kube") (.text "LabelSelector")))
      let k := firstOf (← results callValue locals (.text "to_s"))
      let v := firstOf (← results callValue locals (.var "type"))
      assignIndex o k v
      valuesOf callValue locals [.var "before", .call (.var "tostring") [.var "s"]]) := by
    simp only [runChunk, reassigning, Chunk.expression?, runBlock, bind_assoc, pure_bind,
      bind_pure, Option.getD_some]
  rw [Session.evaluate, hstraight]
  decide +kernel

end ClusterScript.Script
