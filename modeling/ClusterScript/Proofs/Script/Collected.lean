import ClusterScript.Proofs.Script.Addresses
import ClusterScript.Proofs.Script.QueryBlocks
import ClusterScript.Proofs.Script.Recordings

/-!
# What kind of expressions collectors hold

Keys come about in many ways, and those of either kind on collectors of
either kind; but what a collector holds was matched on keys of its own kind,
and by methods of their class. So a collector of fields holds no mere
presence, for which fields have no terms, and there is a text for what any
collector holds.

* `Stage`: a moment that founded deeds have led to.
* `World.Housed`: collectors are of the classes of their kinds.
* `Stage.recorded`: what a collector holds was matched on keys of its kind.
* `collected_by_kind`: collectors, their texts, and the selectors made of them.
-/
namespace ClusterScript.Script

open Selector (Kind Expression)

/-! ## Stages -/

/-- A moment of a session that founded deeds have led to, as scripts do. -/
structure Stage [Library] (host : Host) extends Moment host where
  course : Course (Engine.installed host) deeds world

section

variable {w w' : World} {deeds earlier : List Deed} {d : Deed} {collector : Instance}
variable {kind : Kind} {e : Expression}

/-- A deed of a course was founded in the world before it, to which the deeds before it led. -/
theorem Course.before [Library] (h : Course w deeds w') (hsuffix : d :: earlier <:+ deeds) :
    ∃ w₁ later, Course w earlier w₁ ∧ d.Founded w₁ ∧ Steps w₁ later w' := by
  induction h with
  | refl => simp at hsuffix
  | step hbefore hstep hfounded ih =>
    rcases List.suffix_cons_iff.1 hsuffix with heq | hsuffix
    · cases heq
      exact ⟨_, [d], hbefore, hfounded, .step (.refl _) hstep⟩
    · obtain ⟨w₁, later, hcourse, hfounded₁, hlater⟩ := ih hsuffix
      exact ⟨w₁, _, hcourse, hfounded₁, .step hlater hstep⟩

/-- The matches of a collector are matches on its keys. -/
theorem exists_matched (h : e ∈ matchesOn collector deeds) :
    ∃ key earlier, .matched key e :: earlier <:+ deeds ∧ attached collector earlier key = true := by
  induction deeds with
  | nil => cases h
  | cons d deeds ih =>
    have hlater : e ∈ matchesOn collector deeds → ∃ key earlier,
        .matched key e :: earlier <:+ d :: deeds ∧ attached collector earlier key = true := by
      intro h
      obtain ⟨key, earlier, hsuffix, hattached⟩ := ih h
      exact ⟨key, earlier, hsuffix.trans (List.suffix_cons d deeds), hattached⟩
    cases d with
    | matched key e' =>
      rw [matchesOn] at h
      split at h
      · next hattached =>
        rcases List.mem_append.1 h with h | h
        · exact hlater h
        · cases List.mem_singleton.1 h
          exact ⟨key, deeds, List.suffix_refl _, hattached⟩
      · exact hlater h
    | _ => exact hlater h

/-! ## Classes of collectors -/

/-- Collectors are of the classes of their kinds. -/
def World.Housed (w : World) : Prop := ∀ i kind list known,
  w.registry.lookup i = .ok (.collector kind list known) →
    w.registry.classId? (collectorClass kind) = some i.cls

theorem Step.housed [Library] (hw : w.Furnished) (h : w.Housed) (hstep : Step w d w') :
    w'.Housed := by
  intro i kind list known hi
  rw [(hstep.carries hw).classId?]
  cases hstep.effect hw with
  | own hregistry _ =>
    rw [hregistry] at hi
    exact h i kind list known hi
  | opened hopens =>
    rcases (hopens.lookup i _).1 hi with hold | ⟨_, -, hkey⟩ | ⟨rfl, hnew⟩
    · exact h i kind list known hold
    · cases hkey
    · cases hnew
      exact hopens.clsCollector
  | reached _ hadds | named _ hadds | extended _ _ _ hadds | detached hadds | closed _ _ hadds =>
    rcases hadds.lookup.1 hi with hold | ⟨-, hnew⟩
    · exact h i kind list known hold
    · cases hnew
  | recorded _ | dropped _ | asked _ | moved _ => exact h i kind list known hi
  | made hplain _ =>
    rcases Registry.lookup_allocated_iff.1 hi with hold | ⟨-, rfl⟩
    · exact h i kind list known hold
    · cases hplain
  | changed hold hbecomes =>
    rw [Registry.lookup_update hold] at hi
    split at hi
    · subst hi
      cases hbecomes
    · exact h i kind list known hi

theorem Steps.housed [Library] (hw : w.Furnished) (h : w.Housed) (hsteps : Steps w deeds w') :
    w'.Housed := by
  induction hsteps with
  | refl => exact h
  | step hsteps hstep ih => exact hstep.housed (hw.carries (hsteps.carries hw)) ih

theorem Moment.housed [Library] {host : Host} (m : Moment host) : m.world.Housed := by
  refine m.steps.housed (installed_intact host).1.furnished fun i _ _ _ hi => ?_
  rw [Registry.lookup_eq_ok, installed_slots] at hi
  simp at hi

end

/-! ## Methods of keys -/

/-- Keys of a kind are matched on with the operators of that kind. -/
theorem installed_matchers {host : Host} {kind : Kind} {operator : Selector.Operator}
    {b : BoundMethod} (hb : b ∈ (Engine.installed host).registry.bound) {c : Class}
    (hc : (Engine.installed host).registry.classes[b.cls]? = some c)
    (htrap : c.trap = some (.path kind))
    (hbody : b.method.body = .selector (.compare operator)) :
    operator ∈ (Selectors.matchers kind).map Prod.snd := by
  have hall : ∀ b ∈ (Engine.installed default).registry.bound.toList,
      ∀ kind ∈ [Kind.label, .field],
      ∀ operator ∈ [Selector.Operator.equals, .notEquals, .isIn, .notIn, .present],
        ((Engine.installed default).registry.classes[b.cls]?.bind (·.trap)) =
          some (.path kind) → b.method.body = .selector (.compare operator) →
            operator ∈ (Selectors.matchers kind).map Prod.snd := by
    decide +kernel
  rw [installed_registry host default] at hb hc
  refine hall b (Array.mem_def.1 hb) kind (by cases kind <;> simp) operator
    (by cases operator <;> simp) ?_ hbody
  rw [hc, Option.bind_some, htrap]

/-- The classes with paths are those of keys. -/
theorem installed_keyClass {host : Host} {kind : Kind} {c : Class}
    (hc : c ∈ (Engine.installed host).registry.classes) (htrap : c.trap = some (.path kind)) :
    c.name = keyClass kind := by
  have hall : ∀ c ∈ (Engine.installed default).registry.classes, ∀ kind ∈ [Kind.label, .field],
      c.trap = some (.path kind) → c.name = keyClass kind := by
    decide +kernel
  rw [installed_registry host default] at hc
  exact hall c hc kind (by cases kind <;> simp) htrap

theorem installed_collectorText (kind : Kind) :
    (Engine.installed default).registry.Defines (collectorClass kind)
      ⟨"to_s", .exact 0, .selector .collectorText⟩ := by
  cases kind <;> decide +kernel

namespace Moment

variable {host : Host} {key : Instance} {kind : Kind}

/-- What a key is of shows in the first world of the session. -/
theorem keyClass [Library] (m : Moment host) (hkey : m.world.IsKeyOf key kind) :
    ∃ c, (Engine.installed host).registry.classes[key.cls]? = some c ∧
      c.trap = some (.path kind) := by
  obtain ⟨c', hc', htrap⟩ := hkey
  have hprofile := congrArg (fun l => l[key.cls]?) m.carries.profile
  simp only [Registry.profile, List.getElem?_map, hc', Option.map_some] at hprofile
  obtain ⟨c, hc, heq⟩ := Option.map_eq_some_iff.1 hprofile.symm
  simp only [Prod.mk.injEq] at heq
  exact ⟨c, hc, heq.2.2.trans htrap⟩

theorem className_key [Library] (m : Moment host) (hkey : m.world.IsKeyOf key kind) :
    m.world.registry.className key.cls = .ok (Script.keyClass kind) := by
  obtain ⟨c, hc, htrap⟩ := m.keyClass hkey
  obtain ⟨c', hc', hname, -⟩ := m.carries.classes hc
  rw [Registry.className, Registry.cls, hc']
  show Except.ok c'.name = _
  rw [hname, installed_keyClass (List.mem_of_getElem? hc) htrap]

end Moment

/-- A selector is made of what a collector holds where there is a text for that. -/
theorem Selectors.exists_closeSelector {w : World} (hw : w.Furnished) {kind : Kind} {list : Nat}
    {text : String} (htext : Selector.render kind (w.registry.recording list) = .ok text) :
    ∃ selector w', (closeSelector kind list).run w = .ok (.instance selector, text) w' := by
  obtain ⟨cls, hcls⟩ := hw.selector kind
  have hnew := Run.run_newInstanceOf hcls (.selector (w.registry.recording list) text)
  have hrender : (Run.liftRefusal (Selector.render kind (w.registry.recording list))).run w =
      .ok text w := by
    rw [htext]
    rfl
  have hclose : (closeSelector kind list).Gives w fun closed _ =>
      ∃ selector, closed = (.instance selector, text) :=
    .bind_of_ok Run.run_registry (.bind_of_ok hrender (.bind_of_ok hnew (.pure ⟨_, rfl⟩)))
  obtain ⟨_, w', hrun, selector, rfl⟩ := hclose.exists_ok
  exact ⟨selector, w', hrun⟩

namespace Stage

variable {host : Host} {collector : Instance} {kind : Kind} {list : Nat}

/-- What founded deeds lead to from the first world is a stage. -/
theorem of_leads [Library] {w : World} (h : (Engine.installed host).Leads w) :
    ∃ s : Stage host, s.world = w := by
  obtain ⟨deeds, hcourse⟩ := h
  exact ⟨⟨⟨deeds, w, hcourse.steps⟩, hcourse⟩, rfl⟩

theorem leads [Library] (s : Stage host) : (Engine.installed host).Leads s.world :=
    ⟨s.deeds, s.course⟩

theorem className_collector [Library] (s : Stage host) {known : List (String × Instance)}
    (hc : s.world.registry.lookup collector = .ok (.collector kind list known)) :
    s.world.registry.className collector.cls = .ok (collectorClass kind) := by
  obtain ⟨c, hc, hname⟩ := Registry.classes_of_classId? (s.housed _ _ _ _ hc)
  rw [Registry.className, Registry.cls, hc]
  show Except.ok c.name = _
  rw [hname]

/-- What a collector holds was matched on a key of its kind, by a method for that kind. -/
theorem recorded [Library] (s : Stage host) (hc : s.world.Collects collector kind list)
    {e : Expression} (he : e ∈ s.world.registry.recording list) :
    (∃ name, (name, e.operator) ∈ Selectors.matchers kind) ∧
      ∃ key earlier, .matched key e :: earlier <:+ s.deeds ∧
        attached collector earlier key = true ∧
        s.world.registry.className key.cls = .ok (keyClass kind) := by
  rw [Registry.recording, s.account.kept hc, Option.getD_some] at he
  obtain ⟨key, earlier, hsuffix, hattached⟩ := exists_matched he
  obtain ⟨w, later, hcourse, hfounded, hlater⟩ := s.course.before hsuffix
  -- at the moment of the match, the key reports to the list of this collector
  let before : Moment host := ⟨earlier, w, hcourse.steps⟩
  have hcarries : w.registry.Carries s.world.registry := hlater.carries before.furnished
  obtain ⟨kind₁, list₁, hc₁, hreports⟩ := before.account.attached.1 hattached
  obtain ⟨collector', kind', hc', hkey⟩ := before.account.owned hreports
  obtain rfl := before.account.distinct hc₁ hc'
  obtain ⟨rfl, -⟩ := hc₁.unique hc'
  obtain rfl : kind' = kind := by
    obtain ⟨known, hlookup⟩ := hc₁
    exact (hc.unique ⟨known, hcarries.lookup_fixed rfl hlookup⟩).1
  refine ⟨?_, key, earlier, hsuffix, hattached, s.className_key (hkey.carries hcarries)⟩
  obtain ⟨b, hb, hcls, hbody⟩ := hfounded.compares key e.operator rfl
  obtain ⟨c, hclass, htrap⟩ := before.keyClass hkey
  rw [show w.registry.bound = _ from before.carries.bound] at hb
  obtain ⟨⟨name, _⟩, hmatcher, rfl⟩ :=
    List.mem_map.1 (installed_matchers hb (hcls ▸ hclass) htrap hbody)
  exact ⟨name, hmatcher⟩

/-- There is a text for what a collector holds. -/
theorem rendered [Library] (s : Stage host) (hc : s.world.Collects collector kind list) :
    ∃ text, Selector.render kind (s.world.registry.recording list) = .ok text := by
  refine render_ok kind ?_
  rintro rfl e he
  obtain ⟨⟨name, hmatcher⟩, -⟩ := s.recorded hc he
  exact fieldTerms_of_matcher hmatcher

/-- A collector tells the text of what it holds. -/
theorem run_collectorText [Library] (s : Stage host) {text : String}
    (hc : s.world.Collects collector kind list)
    (htext : Selector.render kind (s.world.registry.recording list) = .ok text) {k : Nat}
    {b : BoundMethod} (hbound : s.world.registry.bound[k]? = some b) (hcls : b.cls = collector.cls)
    (hm : b.method = ⟨"to_s", .exact 0, .selector .collectorText⟩) (depth : Nat) :
    (callAt (depth + 1) (.host (.method k)) [.instance collector]).run s.world =
      .ok [.text text] s.world := by
  obtain ⟨known, hlookup⟩ := hc
  have hkind : b.method.body.kind = .ofInstance := by rw [hm]; rfl
  have harity : b.method.arity.Admits ([] : List Value).length := by rw [hm]; rfl
  rw [run_callAt_method hbound hcls hkind harity, hm]
  refine (Run.run_bind_of_ok (Run.run_lookup hlookup)).trans ?_
  refine (Run.run_bind_of_ok Run.run_registry).trans ?_
  rw [htext]
  rfl

/-- Where the block of a selector returns, there is a selector of what it has collected. -/
theorem newSelector [Library] (s : Stage host) (depth : Nat) (kind : Kind) (block : Value) :
    ∃ collector list w₁,
      (Selectors.openCollector kind).run s.world = .ok (collector, list) w₁ ∧
      ∀ values w₂, (callFromHost (callAt depth) block [.instance collector]).run w₁ =
          .ok values w₂ →
        ∃ text selector w₃, Selector.render kind (w₂.registry.recording list) = .ok text ∧
          (Selectors.newSelector (callAt depth) kind block).run s.world =
            .ok (.instance selector, text) w₃ := by
  obtain ⟨collector, list, known, w₁, hopen, hopens, hstep⟩ :=
    Selectors.openCollector_opens s.furnished kind
  refine ⟨collector, list, w₁, hopen, fun values w₂ hcall => ?_⟩
  have hfirst : s.world.Leads w₁ := .of_founded hstep (.of_none rfl rfl)
  have hw₁ := hfirst.furnished s.furnished
  have hblock : w₁.Leads w₂ :=
    ((callFromHost_traced (callAt_traced depth) block _).leads hw₁).ok values w₂ hcall
  obtain ⟨s₂, rfl⟩ := Stage.of_leads (s.leads.trans (hfirst.trans hblock))
  have hc : s₂.world.Collects collector kind list :=
    ⟨known, (hblock.carries hw₁).lookup_fixed rfl ((hopens.lookup _ _).2 (.inr (.inr ⟨rfl, rfl⟩)))⟩
  obtain ⟨text, htext⟩ := s₂.rendered hc
  obtain ⟨selector, w₃, hclose⟩ := Selectors.exists_closeSelector s₂.furnished htext
  refine ⟨text, selector, w₃, htext, ?_⟩
  rw [Selectors.newSelector_eq, Run.run_bind_of_ok hopen, Run.run_bind_of_ok hcall, hclose]

end Stage

/-- **Collectors hold expressions of their own kind.** Whatever chunks a session evaluates, it
comes to a stage. At every stage, each collector is of the class of its kind, and each expression
that it holds has a key that is not blank, and has no values exactly if it is a mere presence,
which a collector of fields never holds; it was matched on a key of the collector, which is of the
class of keys of that kind. So there is a text for what the collector holds, and its method gives
this text. And a selector fails only where its block does: if that returns, there is a text for
what was collected, and a selector of it. -/
theorem collected_by_kind [Library] (cluster : Cluster) (ns : String) (mode : NumberMode)
    (now : Timestamp) (files : FileTree) (environment : List (String × String)) :
    (∀ chunks, ∃ s : Stage ⟨cluster, namespaceOf ns, mode, now, files, environment⟩,
      s.world = (evaluated (Session.new cluster ns mode now files environment) chunks).world) ∧
    ∀ s : Stage ⟨cluster, namespaceOf ns, mode, now, files, environment⟩,
      (∀ collector kind list known,
        s.world.registry.lookup collector = .ok (.collector kind list known) →
          s.world.registry.className collector.cls = .ok (collectorClass kind) ∧
          (∀ e ∈ s.world.registry.recording list, Text.blank e.key = false ∧
            (e.values = [] ↔ e.operator = .present) ∧
            (e.operator ≠ .present → ∃ first rest, e.values = first :: rest) ∧
            (kind = .field → e.operator ≠ .present) ∧
            ∃ key earlier, .matched key e :: earlier <:+ s.deeds ∧
              attached collector earlier key = true ∧
              s.world.registry.className key.cls = .ok (keyClass kind)) ∧
          s.world.registry.Defines (collectorClass kind)
            ⟨"to_s", .exact 0, .selector .collectorText⟩ ∧
          ∃ text, Selector.render kind (s.world.registry.recording list) = .ok text ∧
            ∀ (depth k : Nat) (b : BoundMethod), s.world.registry.bound[k]? = some b →
              b.cls = collector.cls →
              b.method = ⟨"to_s", .exact 0, .selector .collectorText⟩ →
                (callAt (depth + 1) (.host (.method k)) [.instance collector]).run s.world =
                  .ok [.text text] s.world) ∧
      ∀ depth kind block, ∃ collector list w₁,
        (Selectors.openCollector kind).run s.world = .ok (collector, list) w₁ ∧
        ∀ values w₂, (callFromHost (callAt depth) block [.instance collector]).run w₁ =
            .ok values w₂ →
          ∃ text selector w₃, Selector.render kind (w₂.registry.recording list) = .ok text ∧
            (Selectors.newSelector (callAt depth) kind block).run s.world =
              .ok (.instance selector, text) w₃ := by
  let host : Host := ⟨cluster, namespaceOf ns, mode, now, files, environment⟩
  have hw : (Engine.installed host).Furnished := (installed_intact host).1.furnished
  refine ⟨fun chunks => Stage.of_leads (evaluated_leads hw chunks), fun s => ⟨?_, s.newSelector⟩⟩
  intro collector kind list known hlookup
  have hc : s.world.Collects collector kind list := ⟨known, hlookup⟩
  obtain ⟨text, htext⟩ := s.rendered hc
  refine ⟨s.className_collector hlookup, fun e he => ?_,
    s.defines (installed_collectorText kind), text, htext,
    fun depth k b hbound hcls hm => s.run_collectorText hc htext hbound hcls hm depth⟩
  obtain ⟨⟨name, hmatcher⟩, hmatched⟩ := s.recorded hc he
  refine ⟨e.key_not_blank, ⟨e.values_fit.2, e.values_fit.1⟩, e.values_cons, ?_, hmatched⟩
  rintro rfl hpresent
  rw [hpresent] at hmatcher
  simp [Selectors.matchers, Selectors.fieldMatchers] at hmatcher

end ClusterScript.Script
