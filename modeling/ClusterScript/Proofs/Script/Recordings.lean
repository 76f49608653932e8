import ClusterScript.Proofs.Script.SettingUp
import ClusterScript.Proofs.Script.Traces

/-!
# What collectors record

Which matches a collector has recorded, and what a selector holds, can be
told from the deeds alone. A key is attached to the collector that it was
made for: with the collector itself, by its trap, by name, or as a longer
path of a field key that is attached. A collector holds the matches on the
keys attached to it, in their order; a selector keeps what its collector held
when it was closed.

* `attached`, `matchesOn`: keys and matches of a collector, told by deeds.
* `Account`: what a world keeps is as its deeds tell.
* `Account.step`, `Moment.account`: every deed keeps it so.
-/
namespace ClusterScript.Script

open Selector (Kind Expression)

/-! ## What deeds tell -/

/-- Whether a collector of a kind was opened. -/
def collects (kind : Kind) (collector : Instance) (deeds : List Deed) : Bool :=
  deeds.any fun
    | .opened kind' collector' _ => kind' = kind && collector' = collector
    | _ => false

/-- Whether a key is attached to a collector. Well-known keys are label keys; a named key has
to be of the collector's kind, and only field keys stay attached when their path grows. -/
def attached (collector : Instance) : List Deed → Instance → Bool
  | [], _ => false
  | d :: earlier, key => attached collector earlier key || match d with
    | .opened kind collector' known =>
      collector' = collector && kind = .label && known.any fun p => p.2 = key
    | .reached collector' key' => collector' = collector && key' = key
    | .named collector' wanted key' =>
      collector' = collector && key' = key && collects wanted collector earlier
    | .extended key' longer =>
      longer = key && attached collector earlier key' && collects .field collector earlier
    | _ => false

/-- The matches on the keys attached to a collector, the first of them first. -/
def matchesOn (collector : Instance) : List Deed → List Expression
  | [] => []
  | .matched key e :: earlier =>
    if attached collector earlier key then matchesOn collector earlier ++ [e]
    else matchesOn collector earlier
  | _ :: earlier => matchesOn collector earlier

/-- A selector was made of what a collector held then, and the text of it. -/
def ClosedWith (deeds : List Deed) (selector : Instance) (expressions : List Expression)
    (text : String) : Prop :=
  ∃ collector kind earlier, .closed collector selector :: earlier <:+ deeds ∧
    collects kind collector earlier = true ∧ expressions = matchesOn collector earlier ∧
    Selector.render kind expressions = .ok text

/-! ## What worlds keep -/

/-- An instance is a collector of a kind with a list. -/
def World.Collects (w : World) (collector : Instance) (kind : Kind) (list : Nat) : Prop :=
  ∃ known, w.registry.lookup collector = .ok (.collector kind list known)

/-- An instance is a key whose matches go to a list. -/
def World.Reports (w : World) (key : Instance) (list : Nat) : Prop :=
  ∃ path, w.registry.lookup key = .ok (.key path (.record list))

/-- The class of an instance is that of the keys of a kind. -/
def World.IsKeyOf (w : World) (key : Instance) (kind : Kind) : Prop :=
  ∃ c, w.registry.classes[key.cls]? = some c ∧ c.trap = some (.path kind)

/-- What a world keeps is as its deeds tell. -/
structure Account (deeds : List Deed) (w : World) : Prop where
  opened {collector : Instance} {kind : Kind} :
    collects kind collector deeds = true ↔ ∃ list, w.Collects collector kind list
  distinct {collector collector' : Instance} {kind kind' : Kind} {list : Nat} :
    w.Collects collector kind list → w.Collects collector' kind' list → collector' = collector
  kept {collector : Instance} {kind : Kind} {list : Nat} : w.Collects collector kind list →
    w.registry.recordings[list]? = some (matchesOn collector deeds)
  owned {key : Instance} {list : Nat} : w.Reports key list →
    ∃ collector kind, w.Collects collector kind list ∧ w.IsKeyOf key kind
  attached {collector key : Instance} : attached collector deeds key = true ↔
    ∃ kind list, w.Collects collector kind list ∧ w.Reports key list
  closed {selector : Instance} {expressions : List Expression} {text : String} :
    w.registry.lookup selector = .ok (.selector expressions text) →
      ClosedWith deeds selector expressions text ∧
        ∃ kind, w.registry.classId? (selectorClass kind) = some selector.cls

/-- The keys, collectors and selectors of a world are those of another, and some more. -/
def World.Gains (w : World) (new : Instance → InstanceState → Prop) (w' : World) : Prop :=
  ∀ i state, state.isFixed = true →
    (w'.registry.lookup i = .ok state ↔ w.registry.lookup i = .ok state ∨ new i state)

section

variable {w w' : World} {deeds : List Deed} {d : Deed} {collector key i : Instance}
variable {kind : Kind} {list : Nat} {new : Instance → InstanceState → Prop}
variable {name : String} {state : InstanceState}

/-- A collector has one kind and one list. -/
theorem World.Collects.unique {kind' : Kind} {list' : Nat} (h : w.Collects collector kind list)
    (h' : w.Collects collector kind' list') : kind' = kind ∧ list' = list := by
  obtain ⟨_, hlookup⟩ := h
  obtain ⟨_, hlookup'⟩ := h'
  cases hlookup.symm.trans hlookup'
  exact ⟨rfl, rfl⟩

theorem World.Reports.unique {list' : Nat} (h : w.Reports key list) (h' : w.Reports key list') :
    list' = list := by
  obtain ⟨_, hlookup⟩ := h
  obtain ⟨_, hlookup'⟩ := h'
  cases hlookup.symm.trans hlookup'
  rfl

theorem World.IsKeyOf.carries (h : w.IsKeyOf key kind) (hw : w.registry.Carries w'.registry) :
    w'.IsKeyOf key kind := by
  obtain ⟨c, hc, htrap⟩ := h
  obtain ⟨c', hc', -, -, htrap'⟩ := hw.classes hc
  exact ⟨c', hc', htrap'.trans htrap⟩

theorem World.IsKeyOf.unique {kind' : Kind} (h : w.IsKeyOf key kind) (h' : w.IsKeyOf key kind') :
    kind' = kind := by
  obtain ⟨c, hc, htrap⟩ := h
  obtain ⟨c', hc', htrap'⟩ := h'
  cases hc.symm.trans hc'
  cases htrap.symm.trans htrap'
  rfl

theorem World.Furnished.isKeyOf (h : w.Furnished) (hcls : w.registry.classId? (keyClass kind) =
    some key.cls) : w.IsKeyOf key kind := by
  obtain ⟨id, c, hid, hc, htrap⟩ := h.key kind
  cases hid.symm.trans hcls
  exact ⟨c, hc, htrap⟩

namespace World.Gains

/-- A change that concerns no key, no collector and no selector. -/
theorem of_same (h : w'.registry.slots = w.registry.slots) : w.Gains (fun _ _ => False) w' := by
  intro i state _
  rw [Registry.lookup_eq_ok, Registry.lookup_eq_ok, h, or_false]

theorem of_adds (h : w.Adds name state i w') : w.Gains (fun j s => j = i ∧ s = state) w' :=
  fun _ _ _ => h.lookup

theorem of_allocated {cls : Nat} (hstate : state.isFixed = false) :
    w.Gains (fun _ _ => False) { w with registry := w.registry.allocated cls state } := by
  intro j s hs
  rw [Registry.lookup_allocated_iff, or_false]
  refine or_iff_left ?_
  rintro ⟨-, rfl⟩
  rw [hstate] at hs
  cases hs

theorem of_update {old : InstanceState} (hi : w.registry.lookup i = .ok old)
    (hbecomes : old.Becomes state) :
    w.Gains (fun _ _ => False) { w with registry := w.registry.update i state } := by
  intro j s hs
  rw [Registry.lookup_update hi, or_false]
  split
  · next hj =>
    subst hj
    rw [hi]
    constructor
    · rintro rfl
      cases hbecomes <;> cases hs
    · intro h
      cases h
      cases hbecomes <;> cases hs
  · rfl

theorem collects (h : w.Gains new w') : w'.Collects collector kind list ↔
    w.Collects collector kind list ∨ ∃ known, new collector (.collector kind list known) := by
  simp only [World.Collects, h _ (.collector _ _ _) rfl, exists_or]

theorem reports (h : w.Gains new w') : w'.Reports key list ↔
    w.Reports key list ∨ ∃ path, new key (.key path (.record list)) := by
  simp only [World.Reports, h _ (.key _ _) rfl, exists_or]

end World.Gains

theorem ClosedWith.later {selector : Instance} {expressions : List Expression} {text : String}
    (h : ClosedWith deeds selector expressions text) :
    ClosedWith (d :: deeds) selector expressions text := by
  obtain ⟨collector, kind, earlier, hsuffix, h⟩ := h
  exact ⟨collector, kind, earlier, hsuffix.trans (List.suffix_cons d deeds), h⟩

/-! ## Deeds that open nothing and match nothing -/

/-- Deeds that make keys or selectors, or none: no list is changed, and keys that report to a
list are attached to the collector of that list. -/
theorem Account.plain (h : Account deeds w) (hcarries : w.registry.Carries w'.registry)
    (hgains : w.Gains new w') (hrecordings : w'.registry.recordings = w.registry.recordings)
    (hopens : ∀ kind collector, collects kind collector (d :: deeds) =
      collects kind collector deeds)
    (hmatches : ∀ collector, matchesOn collector (d :: deeds) = matchesOn collector deeds)
    (hcollector : ∀ i kind list known, ¬ new i (.collector kind list known))
    (howned : ∀ key path list, new key (.key path (.record list)) →
      ∃ collector kind, w.Collects collector kind list ∧ w'.IsKeyOf key kind)
    (hattached : ∀ collector key, Script.attached collector (d :: deeds) key = true ↔
      Script.attached collector deeds key = true ∨ ∃ kind list path,
        w.Collects collector kind list ∧ new key (.key path (.record list)))
    (hselector : ∀ i expressions text, new i (.selector expressions text) →
      ClosedWith (d :: deeds) i expressions text ∧
        ∃ kind, w.registry.classId? (selectorClass kind) = some i.cls) :
    Account (d :: deeds) w' := by
  have hcollects : ∀ {i kind list}, w'.Collects i kind list ↔ w.Collects i kind list := by
    intro i kind list
    rw [hgains.collects]
    exact or_iff_left fun ⟨known, hnew⟩ => hcollector i kind list known hnew
  constructor
  case opened =>
    intro collector kind
    simp only [hopens, h.opened, hcollects]
  case distinct =>
    intro _ _ _ _ _ hc hc'
    exact h.distinct (hcollects.1 hc) (hcollects.1 hc')
  case kept =>
    intro collector kind list hc
    rw [hrecordings, hmatches]
    exact h.kept (hcollects.1 hc)
  case owned =>
    intro key list hreports
    simp only [hcollects]
    rcases hgains.reports.1 hreports with hold | ⟨path, hnew⟩
    · obtain ⟨collector, kind, hc, hkey⟩ := h.owned hold
      exact ⟨collector, kind, hc, hkey.carries hcarries⟩
    · exact howned key path list hnew
  case attached =>
    intro collector key
    rw [hattached, h.attached]
    simp only [hcollects, hgains.reports]
    constructor
    · rintro (⟨kind, list, hc, hreports⟩ | ⟨kind, list, path, hc, hnew⟩)
      · exact ⟨kind, list, hc, .inl hreports⟩
      · exact ⟨kind, list, hc, .inr ⟨path, hnew⟩⟩
    · rintro ⟨kind, list, hc, hreports | ⟨path, hnew⟩⟩
      · exact .inl ⟨kind, list, hc, hreports⟩
      · exact .inr ⟨kind, list, path, hc, hnew⟩
  case closed =>
    intro selector expressions text hselected
    simp only [hcarries.classId?]
    rcases (hgains _ _ rfl).1 hselected with hold | hnew
    · exact ⟨(h.closed hold).1.later, (h.closed hold).2⟩
    · exact hselector _ _ _ hnew

/-- Deeds that concern no key, no collector and no selector. -/
theorem Account.quiet (h : Account deeds w) (hcarries : w.registry.Carries w'.registry)
    (hgains : w.Gains (fun _ _ => False) w')
    (hrecordings : w'.registry.recordings = w.registry.recordings)
    (hopens : ∀ kind collector, collects kind collector (d :: deeds) =
      collects kind collector deeds)
    (hmatches : ∀ collector, matchesOn collector (d :: deeds) = matchesOn collector deeds)
    (hattached : ∀ collector key, Script.attached collector (d :: deeds) key =
      Script.attached collector deeds key) : Account (d :: deeds) w' :=
  h.plain hcarries hgains hrecordings hopens hmatches (fun _ _ _ _ h => h)
    (fun _ _ _ h => h.elim) (fun collector key => by simp [hattached]) fun _ _ _ h => h.elim

/-- A key is made; where it reports to a list, it is attached to the collector of that list. -/
theorem Account.madeKey {path : List String} {sink : Sink} (hw : w.Furnished)
    (h : Account deeds w) (hadds : w.Adds (keyClass kind) (.key path sink) key w')
    (hopens : ∀ kind collector, collects kind collector (d :: deeds) =
      collects kind collector deeds)
    (hmatches : ∀ collector, matchesOn collector (d :: deeds) = matchesOn collector deeds)
    (howned : ∀ list, sink = .record list → ∃ collector, w.Collects collector kind list)
    (hattached : ∀ collector k, Script.attached collector (d :: deeds) k = true ↔
      Script.attached collector deeds k = true ∨ k = key ∧ ∃ kind list,
        w.Collects collector kind list ∧ sink = .record list) : Account (d :: deeds) w' := by
  have hkey : w'.IsKeyOf key kind :=
    (hw.isKeyOf hadds.cls).carries hadds.carries
  refine h.plain hadds.carries (.of_adds hadds) ?_ hopens hmatches ?_ ?_ ?_ ?_
  · rw [hadds.world]
    rfl
  · rintro i kind list known ⟨-, hstate⟩
    cases hstate
  · rintro k path' list ⟨rfl, hstate⟩
    cases hstate
    obtain ⟨collector, hc⟩ := howned list rfl
    exact ⟨collector, kind, hc, hkey⟩
  · intro collector k
    rw [hattached]
    refine or_congr_right ?_
    constructor
    · rintro ⟨rfl, kind', list, hc, rfl⟩
      exact ⟨kind', list, path, hc, rfl, rfl⟩
    · rintro ⟨kind', list, path', hc, rfl, hstate⟩
      cases hstate
      exact ⟨rfl, kind', list, hc, rfl⟩
  · rintro i expressions text ⟨-, hstate⟩
    cases hstate

theorem sinkFor_eq_record {wanted : Kind} {list' : Nat} :
    Selectors.sinkFor kind wanted list = .record list' ↔ kind = wanted ∧ list' = list := by
  unfold Selectors.sinkFor
  split
  · next heq => simp [heq, eq_comm]
  · next hne => simp [hne]

theorem extendedSink_eq_record {sink : Sink} :
    extendedSink kind sink = .record list ↔ kind = .field ∧ sink = .record list := by
  cases kind <;> simp [extendedSink]

/-- The keys that the trap of a collector makes. -/
theorem Account.reached (hw : w.Furnished) (h : Account deeds w)
    (hc : w.Collects collector kind list)
    (hadds : w.Adds (keyClass kind) (.key [name] (.record list)) key w') :
    Account (.reached collector key :: deeds) w' := by
  refine h.madeKey hw hadds (fun _ _ => rfl) (fun _ => rfl) ?_ ?_
  · intro list' hlist
    cases hlist
    exact ⟨collector, hc⟩
  · intro c k
    simp only [Script.attached, Bool.or_eq_true, Bool.and_eq_true, decide_eq_true_eq]
    refine or_congr_right ⟨?_, ?_⟩
    · rintro ⟨rfl, rfl⟩
      exact ⟨rfl, kind, list, hc, rfl⟩
    · rintro ⟨rfl, kind', list', hc', hlist⟩
      cases hlist
      exact ⟨h.distinct hc' hc, rfl⟩

/-- The keys that a collector makes by name. -/
theorem Account.named {wanted : Kind} {path : List String} (hw : w.Furnished)
    (h : Account deeds w) (hc : w.Collects collector kind list)
    (hadds : w.Adds (keyClass wanted) (.key path (Selectors.sinkFor kind wanted list)) key w') :
    Account (.named collector wanted key :: deeds) w' := by
  refine h.madeKey hw hadds (fun _ _ => rfl) (fun _ => rfl) ?_ ?_
  · intro list' hsink
    obtain ⟨rfl, rfl⟩ := sinkFor_eq_record.1 hsink
    exact ⟨collector, hc⟩
  · intro c k
    simp only [Script.attached, Bool.or_eq_true, Bool.and_eq_true, decide_eq_true_eq, h.opened,
      sinkFor_eq_record]
    refine or_congr_right ⟨?_, ?_⟩
    · rintro ⟨⟨rfl, rfl⟩, list', hc'⟩
      obtain ⟨rfl, rfl⟩ := hc.unique hc'
      exact ⟨rfl, _, _, hc', rfl, rfl⟩
    · rintro ⟨rfl, kind', list', hc', rfl, rfl⟩
      cases h.distinct hc hc'
      exact ⟨⟨rfl, rfl⟩, list', hc⟩

/-- The keys that the trap of a key makes: a field key shares its list with a longer path. -/
theorem Account.extended {path : List String} {sink : Sink} {longer : Instance}
    (hw : w.Furnished) (h : Account deeds w) (hkey : w.registry.lookup key = .ok (.key path sink))
    (hkind : w.IsKeyOf key kind)
    (hadds : w.Adds (keyClass kind) (.key (path ++ [name]) (extendedSink kind sink)) longer w') :
    Account (.extended key longer :: deeds) w' := by
  have howner : ∀ {list}, sink = .record list →
      ∃ collector, w.Collects collector kind list ∧ w.Reports key list := by
    rintro list rfl
    obtain ⟨collector, kind', hc, hkind'⟩ := h.owned ⟨path, hkey⟩
    cases hkind.unique hkind'
    exact ⟨collector, hc, path, hkey⟩
  refine h.madeKey hw hadds (fun _ _ => rfl) (fun _ => rfl) ?_ ?_
  · intro list hsink
    obtain ⟨-, hsink⟩ := extendedSink_eq_record.1 hsink
    obtain ⟨collector, hc, -⟩ := howner hsink
    exact ⟨collector, hc⟩
  · intro c k
    simp only [Script.attached, Bool.or_eq_true, Bool.and_eq_true, decide_eq_true_eq, h.opened,
      h.attached, extendedSink_eq_record]
    refine or_congr_right ⟨?_, ?_⟩
    · rintro ⟨⟨rfl, kind', list, hc, path', hreports⟩, list', hc'⟩
      cases hkey.symm.trans hreports
      obtain ⟨rfl, rfl⟩ := hc.unique hc'
      obtain ⟨collector, hown, -⟩ := howner rfl
      cases h.distinct hc hown
      obtain ⟨rfl, -⟩ := hc.unique hown
      exact ⟨rfl, _, _, hc, rfl, rfl⟩
    · rintro ⟨rfl, kind', list, hc, rfl, hsink⟩
      obtain ⟨collector, hown, hreports⟩ := howner hsink
      cases h.distinct hown hc
      exact ⟨⟨rfl, _, list, hown, hreports⟩, list, hown⟩

/-- A selector is made of what the list of its collector holds. -/
theorem Account.addsSelector {selector : Instance} {text : String} (h : Account deeds w)
    (hc : w.Collects collector kind list)
    (hrender : Selector.render kind (w.registry.recording list) = .ok text)
    (hadds : w.Adds (selectorClass kind) (.selector (w.registry.recording list) text) selector
      w') :
    Account (.closed collector selector :: deeds) w' := by
  refine h.plain hadds.carries (.of_adds hadds) ?_ (fun _ _ => rfl) (fun _ => rfl) ?_ ?_ ?_ ?_
  · rw [hadds.world]
    rfl
  · rintro i kind list known ⟨-, hstate⟩
    cases hstate
  · rintro k path list ⟨-, hstate⟩
    cases hstate
  · intro c k
    simp [Script.attached]
  · rintro i expressions text' ⟨rfl, hstate⟩
    cases hstate
    refine ⟨⟨collector, kind, deeds, List.suffix_refl _, h.opened.2 ⟨list, hc⟩, ?_, hrender⟩,
      kind, hadds.cls⟩
    rw [Registry.recording, h.kept hc, Option.getD_some]

/-! ## Matches -/

/-- A match goes to the list of the key's collector, and to no other. -/
theorem Account.recorded {e : Expression} (h : Account deeds w) (hreports : w.Reports key list) :
    Account (.matched key e :: deeds)
      { w with registry := w.registry.record list e } := by
  refine ⟨h.opened, h.distinct, ?_, h.owned, ?_, fun hselected => ?_⟩
  · intro collector kind list' hc
    have hattached : Script.attached collector deeds key = true ↔ list' = list := by
      rw [h.attached]
      constructor
      · rintro ⟨kind', found, hc', hreports'⟩
        obtain ⟨-, rfl⟩ := World.Collects.unique hc hc'
        exact hreports.unique hreports'
      · rintro rfl
        exact ⟨kind, _, hc, hreports⟩
    have hkept : w.registry.recordings[list']? = some (matchesOn collector deeds) := h.kept hc
    show (w.registry.recordings.modify list (· ++ [e]))[list']? = _
    rw [Array.getElem?_modify, hkept, matchesOn]
    by_cases heq : list' = list
    · rw [if_pos heq.symm, if_pos (hattached.2 heq), Option.map_some]
    · rw [if_neg (Ne.symm heq), if_neg (mt hattached.1 heq)]
  · intro collector key'
    simp only [Script.attached, Bool.or_false]
    exact h.attached
  · obtain ⟨hclosed, hcls⟩ := h.closed hselected
    exact ⟨hclosed.later, hcls⟩

/-- A match on a key that reports to no list is kept nowhere. -/
theorem Account.discarded {e : Expression} {path : List String} (h : Account deeds w)
    (hkey : w.registry.lookup key = .ok (.key path .discard)) :
    Account (.matched key e :: deeds) w := by
  refine h.quiet (.refl _) (.of_same rfl) rfl (fun _ _ => rfl) ?_ fun c k => ?_
  · intro collector
    have hattached : ¬ Script.attached collector deeds key = true := by
      rw [h.attached]
      rintro ⟨_, _, _, path', hreports⟩
      cases hkey.symm.trans hreports
    rw [matchesOn, if_neg hattached]
  · simp [Script.attached]

/-! ## New collectors -/

theorem attached_later (h : Script.attached collector deeds key = true) :
    Script.attached collector (d :: deeds) key = true := by
  cases d <;> simp [Script.attached, h]

/-- A collector that no key is attached to has nothing. -/
theorem matchesOn_eq_nil (h : ∀ key, ¬ Script.attached collector deeds key = true) :
    matchesOn collector deeds = [] := by
  induction deeds with
  | nil => rfl
  | cons d earlier ih =>
    have hearlier : ∀ key, ¬ Script.attached collector earlier key = true := fun key hkey =>
      h key (attached_later hkey)
    cases d with
    | matched key e => rw [matchesOn, if_neg (hearlier key), ih hearlier]
    | _ => exact ih hearlier

section

variable {known : List (String × Instance)} {c k : Instance} {kind' : Kind} {l : Nat}

/-- The new collector is the only one that comes to those there were. -/
theorem World.Opens.collects (h : w.Opens kind collector list known w') :
    w'.Collects c kind' l ↔ w.Collects c kind' l ∨ c = collector ∧ kind' = kind ∧ l = list := by
  simp only [World.Collects, h.lookup]
  constructor
  · rintro ⟨known', hold | ⟨_, -, hstate⟩ | ⟨rfl, hstate⟩⟩
    · exact .inl ⟨known', hold⟩
    · cases hstate
    · cases hstate
      exact .inr ⟨rfl, rfl, rfl⟩
  · rintro (⟨known', hold⟩ | ⟨rfl, rfl, rfl⟩)
    · exact ⟨known', .inl hold⟩
    · exact ⟨known, .inr (.inr ⟨rfl, rfl⟩)⟩

/-- The keys of a label collector report to its list. -/
theorem World.Opens.reports (h : w.Opens kind collector list known w') :
    w'.Reports k l ↔ w.Reports k l ∨ (∃ name, (name, k) ∈ known) ∧ kind = .label ∧ l = list := by
  simp only [World.Reports, h.lookup]
  constructor
  · rintro ⟨path, hold | ⟨name, hmem, hstate⟩ | ⟨-, hstate⟩⟩
    · exact .inl ⟨path, hold⟩
    · injection hstate with _ hsink
      exact .inr ⟨⟨name, hmem⟩, sinkFor_eq_record.1 hsink.symm⟩
    · cases hstate
  · rintro (⟨path, hold⟩ | ⟨⟨name, hmem⟩, hsink⟩)
    · exact ⟨path, .inl hold⟩
    · exact ⟨[name], .inr (.inl ⟨name, hmem, by rw [sinkFor_eq_record.2 hsink]⟩)⟩

/-- There was no collector at the handle of the new one. -/
theorem World.Opens.not_collects (h : w.Opens kind collector list known w') :
    ¬ w.Collects collector kind' l := by
  rintro ⟨known', hstate⟩
  rw [Registry.lookup_eq_ok] at hstate
  have hlt := (Array.getElem?_eq_some_iff.1 hstate).1
  have hge := h.freshCollector
  omega

/-- Collectors collect into lists that there are. -/
theorem Account.collects_lt (h : Account deeds w) (hc : w.Collects c kind' l) :
    l < w.registry.recordings.size :=
  (Array.getElem?_eq_some_iff.1 (h.kept hc)).1

/-- Keys report to lists that there are. -/
theorem Account.reports_lt (h : Account deeds w) (hk : w.Reports k l) :
    l < w.registry.recordings.size := by
  obtain ⟨c, kind', hc, -⟩ := h.owned hk
  exact h.collects_lt hc

end

/-- A collector is opened with a list of its own, and its well-known keys. -/
theorem Account.opens {known : List (String × Instance)} (hw : w.Furnished)
    (h : Account deeds w) (hopens : w.Opens kind collector list known w') :
    Account (.opened kind collector known :: deeds) w' := by
  have hlast := hopens.last
  -- the list is new, so no collector and no key knew it
  have hfresh : ∀ {c k l}, w.Collects c k l → l ≠ list := fun hc => by
    rw [hlast]
    exact Nat.ne_of_lt (h.collects_lt hc)
  constructor
  case opened =>
    intro c k
    simp only [hopens.collects, exists_or]
    rw [← h.opened]
    simp only [collects, List.any_cons, Bool.or_eq_true, Bool.and_eq_true, decide_eq_true_eq]
    constructor
    · rintro (⟨rfl, rfl⟩ | hold)
      · exact .inr ⟨list, rfl, rfl, rfl⟩
      · exact .inl hold
    · rintro (hold | ⟨_, rfl, rfl, -⟩)
      · exact .inr hold
      · exact .inl ⟨rfl, rfl⟩
  case distinct =>
    intro c c' k k' l hc hc'
    rcases hopens.collects.1 hc with hc | ⟨rfl, rfl, rfl⟩
    · rcases hopens.collects.1 hc' with hc' | ⟨rfl, rfl, rfl⟩
      · exact h.distinct hc hc'
      · exact absurd rfl (hfresh hc)
    · rcases hopens.collects.1 hc' with hc' | ⟨rfl, -⟩
      · exact absurd rfl (hfresh hc')
      · rfl
  case kept =>
    intro c k l hc
    show _ = some (matchesOn c deeds)
    rw [hopens.recordings, Array.getElem?_push]
    rcases hopens.collects.1 hc with hc | ⟨rfl, rfl, rfl⟩
    · have hne := hfresh hc
      rw [if_neg (by omega)]
      exact h.kept hc
    · rw [if_pos hlast, matchesOn_eq_nil]
      intro key
      rw [h.attached]
      exact fun ⟨_, _, hc, _⟩ => hopens.not_collects hc
  case owned =>
    intro k l hk
    rcases hopens.reports.1 hk with hk | ⟨⟨name, hmem⟩, rfl, rfl⟩
    · obtain ⟨c, k', hc, hkey⟩ := h.owned hk
      exact ⟨c, k', hopens.collects.2 (.inl hc), hkey.carries hopens.carries⟩
    · exact ⟨collector, .label, hopens.collects.2 (.inr ⟨rfl, rfl, rfl⟩),
        (hw.isKeyOf (hopens.cls _ hmem)).carries hopens.carries⟩
  case attached =>
    intro c k
    simp only [Script.attached, Bool.or_eq_true, Bool.and_eq_true, decide_eq_true_eq,
      List.any_eq_true, h.attached, hopens.collects, hopens.reports]
    constructor
    · rintro (⟨k', l, hc, hk⟩ | ⟨⟨rfl, rfl⟩, ⟨name, _⟩, hmem, rfl⟩)
      · exact ⟨k', l, .inl hc, .inl hk⟩
      · exact ⟨.label, list, .inr ⟨rfl, rfl, rfl⟩, .inr ⟨⟨name, hmem⟩, rfl, rfl⟩⟩
    · rintro ⟨k', l, hc | ⟨rfl, rfl, rfl⟩, hk | ⟨⟨name, hmem⟩, rfl, hl⟩⟩
      · exact .inl ⟨k', l, hc, hk⟩
      · exact absurd hl (hfresh hc)
      · exact absurd hlast (Nat.ne_of_lt (h.reports_lt hk))
      · exact .inr ⟨⟨rfl, rfl⟩, _, hmem, rfl⟩
  case closed =>
    intro selector expressions text hselected
    simp only [hopens.carries.classId?]
    rcases (hopens.lookup _ _).1 hselected with hold | ⟨_, -, hstate⟩ | ⟨-, hstate⟩
    · exact ⟨(h.closed hold).1.later, (h.closed hold).2⟩
    · cases hstate
    · cases hstate

/-! ## Whole runs -/

/-- Every deed keeps the account. -/
theorem Account.step [Library] (hw : w.Furnished) (h : Account deeds w) (hstep : Step w d w') :
    Account (d :: deeds) w' := by
  have hcarries := hstep.carries hw
  cases hstep.effect hw with
  | own hregistry _ =>
    exact h.quiet hcarries (.of_same (by rw [hregistry])) (by rw [hregistry]) (fun _ _ => rfl)
      (fun _ => rfl) fun _ _ => by simp [Script.attached]
  | opened hopens => exact h.opens hw hopens
  | reached hc hadds => exact h.reached hw ⟨_, hc⟩ hadds
  | named hc hadds => exact h.named hw ⟨_, hc⟩ hadds
  | extended hclass htrap hold hadds => exact h.extended hw hold ⟨_, hclass, htrap⟩ hadds
  | detached hadds =>
    refine h.madeKey hw hadds (fun _ _ => rfl) (fun _ => rfl) (fun _ h => ?_) fun c k => ?_
    · cases h
    · simp [Script.attached]
  | recorded hkey => exact h.recorded ⟨_, hkey⟩
  | dropped hkey => exact h.discarded hkey
  | closed hc hrender hadds => exact h.addsSelector ⟨_, hc⟩ hrender hadds
  | made hplain _ =>
    exact h.quiet hcarries (.of_allocated hplain) rfl (fun _ _ => rfl)
      (fun _ => rfl) fun _ _ => by simp [Script.attached]
  | changed hfound hbecomes =>
    exact h.quiet hcarries (.of_update hfound hbecomes) rfl (fun _ _ => rfl)
      (fun _ => rfl) fun _ _ => by simp [Script.attached]
  | asked _ =>
    exact h.quiet hcarries (.of_same rfl) rfl (fun _ _ => rfl)
      (fun _ => rfl) fun _ _ => by simp [Script.attached]
  | moved _ =>
    exact h.quiet hcarries (.of_same rfl) rfl (fun _ _ => rfl)
      (fun _ => rfl) fun _ _ => by simp [Script.attached]

/-- A world without instances has nothing to account for. -/
theorem Account.unused (h : w.registry.slots = #[]) : Account [] w := by
  have hnone : ∀ {i state}, w.registry.lookup i ≠ .ok state := by
    intro i state
    rw [Ne, Registry.lookup_eq_ok, h]
    simp
  constructor
  case opened =>
    intro collector kind
    simp [collects, World.Collects, hnone]
  case distinct =>
    rintro _ _ _ _ _ ⟨_, hc⟩
    exact absurd hc hnone
  case kept =>
    rintro _ _ _ ⟨_, hc⟩
    exact absurd hc hnone
  case owned =>
    rintro _ _ ⟨_, hk⟩
    exact absurd hk hnone
  case attached =>
    intro collector key
    simp [Script.attached, World.Collects, hnone]
  case closed =>
    intro _ _ _ hs
    exact absurd hs hnone

theorem Account.steps [Library] (hw : w.Furnished) (h : Account [] w) (hsteps : Steps w deeds w') :
    Account deeds w' := by
  induction hsteps with
  | refl => exact h
  | step hsteps hstep ih => exact ih.step (hw.carries (hsteps.carries hw)) hstep

end

/-- **At every moment of a session its world is as the deeds so far tell.** -/
theorem Moment.account [Library] {host : Host} (m : Moment host) : Account m.deeds m.world :=
  .steps (installed_intact host).1.furnished (.unused (installed_slots host)) m.steps

end ClusterScript.Script
