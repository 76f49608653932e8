import ClusterScript.Proofs.Script.Deeds

/-!
# What deeds rest on

A request names a namespace, and so do the handle of a log and the query of a
list, which keep it for later requests. Each of them takes it from what is at
hand in that moment: from the session, from a text, from an object or from
such an instance. And a match is made by a method of the key's class.

* `World.Locates`: the namespace that an object lies in.
* `World.Addresses`: the namespaces at hand in a world.
* `World.Compares`: the operators that the class of an instance has methods for.
* `Deed.Founded`: a deed finds in the world before it what it names.
* `Course`: founded deeds one after the other.
-/
namespace ClusterScript

/-- The namespace that a question names; a list may look everywhere. -/
def ClusterRequest.namespace? : ClusterRequest → Option String
  | .get _ ns _ | .create _ ns _ | .delete _ ns _ | .logs ns _ => some ns
  | .list _ ns _ => ns

/-- The namespace that a scope names. -/
def Scope.namespace? : Scope → Option String
  | .named ns => some ns
  | .current | .everywhere => none

/-- The namespace that an instance keeps for requests. -/
def InstanceState.namespace? : InstanceState → Option String
  | .logs ns _ _ => some ns
  | .list q _ => q.scope.namespace?
  | _ => none

theorem InstanceState.namespace?_of_isFixed {state : InstanceState} (h : state.isFixed = true) :
    state.namespace? = none := by
  cases state with
  | key | collector | selector => rfl
  | _ => cases h

/-- A scope names a proper namespace, or none. -/
def Scope.Written (scope : Scope) : Prop :=
  ∀ ns, scope.namespace? = some ns → ns ≠ "" ∧ ns ≠ Script.allNamespaces

/-- A name is not empty, and neither a star nor anything with a slash. -/
theorem Name.proper_of_valid {cs : List Char} (h : valid cs = true) :
    cs ≠ [] ∧ cs ≠ ['*'] ∧ '/' ∉ cs := by
  have hchars : ∀ c ∈ cs, isNameChar c = true := by
    simp only [valid, Bool.and_eq_true] at h
    exact List.all_eq_true.1 h.1.1
  refine ⟨?_, ?_, fun hslash => absurd (hchars _ hslash) (by decide)⟩
  · rintro rfl
    cases h
  · rintro rfl
    exact absurd (hchars '*' (by simp)) (by decide)

/-- A text names a proper namespace, or none. -/
theorem Glob.scope?_written {cs : List Char} {scope : Scope} (h : scope? cs = some scope) :
    scope.Written := by
  unfold scope? at h
  split at h
  · cases h
    exact fun _ hns => by cases hns
  · split at h
    · next hvalid =>
      cases h
      rintro _ ⟨rfl⟩
      obtain ⟨hempty, hstar, -⟩ := Name.proper_of_valid hvalid
      exact ⟨by simpa [← String.toList_inj] using hempty,
        by simpa [← String.toList_inj, Script.allNamespaces] using hstar⟩
    · cases h

theorem Glob.parse?_written {text : String} {g : Glob} (h : parse? text = some g) :
    g.scope.Written := by
  have hcurrent : Scope.current.Written := fun _ hns => by cases hns
  unfold parse? at h
  split at h
  · next ns name hsplit =>
    obtain ⟨scope, hscope, hrest⟩ := Option.bind_eq_some_iff.1 h
    obtain ⟨filter, -, hg⟩ := Option.bind_eq_some_iff.1 hrest
    cases hg
    exact scope?_written hscope
  · split at h
    · cases h
      exact hcurrent
    · obtain ⟨filter, -, rfl⟩ := Option.map_eq_some_iff.1 h
      exact hcurrent

theorem Glob.read_written [Library] {text : String} {g : Glob} (h : read text = .ok g) :
    g.scope.Written := by
  cases hparse : parse? text with
  | none =>
    simp only [read, hparse] at h
    cases h
  | some g' =>
    have hg : g' = g := by
      simp only [read, hparse] at h
      split at h
      · exact Except.ok.inj h
      · next f _ =>
        cases hcompiled : Library.compile f.pattern with
        | error text =>
          rw [hcompiled] at h
          cases h
        | ok test =>
          rw [hcompiled] at h
          exact Except.ok.inj h
    exact hg ▸ parse?_written hparse

/-- What has been read of a query names a proper namespace, or none. -/
def Query.Parts.Written (parts : Parts) : Prop := ∀ g, parts.glob = some g → g.scope.Written

theorem Query.ofParts_written {parts : Parts} (h : parts.Written) :
    (ofParts parts).scope.Written := by
  cases hglob : parts.glob with
  | none =>
    intro ns hns
    rw [ofParts, hglob] at hns
    cases hns
  | some g =>
    have hg := h g hglob
    rwa [ofParts, hglob]

namespace Script

/-- The namespace that an object lies in: its own, or else that of the session for single
objects. -/
inductive World.Locates (w : World) (object : Json) : String → Prop
  | own : Object.namespaceName object ≠ "" → Locates w object (Object.namespaceName object)
  | session {h : Host} : w.host = some h → Object.namespaceName object = "" →
      Locates w object (defaultNamespace h.currentNamespace)

/-- The namespaces at hand in a world. -/
inductive World.Addresses (w : World) : String → Prop
  /-- That of the session, for single objects. -/
  | session {h : Host} : w.host = some h → Addresses w (defaultNamespace h.currentNamespace)
  /-- One that a text names. -/
  | written {ns : String} : ns ≠ "" → ns ≠ allNamespaces → Addresses w ns
  /-- That of an object, as it stands there. -/
  | object {i : Instance} {j : Json} : w.registry.lookup i = .ok (.object j) →
      Object.namespaceName j ≠ "" → Addresses w (Object.namespaceName j)
  /-- That which a list or a log keeps. -/
  | kept {i : Instance} {state : InstanceState} {ns : String} :
      w.registry.lookup i = .ok state → state.namespace? = some ns → Addresses w ns

theorem World.Locates.addresses {w : World} {object : Json} {ns : String} {i : Instance}
    (h : w.Locates object ns) (hi : w.registry.lookup i = .ok (.object object)) :
    w.Addresses ns := by
  cases h with
  | own hne => exact .object hi hne
  | session hhost _ => exact .session hhost

/-- Only what concerns neither the registry nor the namespace of the session has changed. -/
structure World.Stays (w w' : World) : Prop where
  registry : w'.registry = w.registry
  current : w'.host.map Host.currentNamespace = w.host.map Host.currentNamespace

theorem World.Addresses.stays {w w' : World} {ns : String} (h : w.Addresses ns)
    (hw : w.Stays w') : w'.Addresses ns := by
  cases h with
  | @session h hhost =>
    obtain ⟨h', hhost', hsame⟩ : ∃ h', w'.host = some h' ∧
        h'.currentNamespace = h.currentNamespace := by
      simpa [hhost] using hw.current
    rw [← hsame]
    exact .session hhost'
  | written hne hall => exact .written hne hall
  | object hi hne => exact .object (by rw [hw.registry, hi]) hne
  | kept hi hns => exact .kept (by rw [hw.registry, hi]) hns

/-- The namespace that a deed names. -/
def Deed.namespace? : Deed → Option String
  | .asked request => request.namespace?
  | .made _ state | .changed _ state => state.namespace?
  | _ => none

/-- The class of an instance has a method for an operator. -/
def World.Compares (w : World) (i : Instance) (operator : Selector.Operator) : Prop :=
  ∃ b ∈ w.registry.bound, b.cls = i.cls ∧ b.method.body = .selector (.compare operator)

/-- The key and the operator of a match. -/
def Deed.match? : Deed → Option (Instance × Selector.Operator)
  | .matched key e => some (key, e.operator)
  | _ => none

/-- A deed finds what it names: a namespace is at hand, a match has its method. -/
structure Deed.Founded (w : World) (d : Deed) : Prop where
  addresses : ∀ ns, d.namespace? = some ns → w.Addresses ns
  compares : ∀ key operator, d.match? = some (key, operator) → w.Compares key operator

/-- A deed that names neither. -/
theorem Deed.Founded.of_none {w : World} {d : Deed} (h : d.namespace? = none)
    (h' : d.match? = none) : d.Founded w where
  addresses _ hns := by rw [h] at hns; cases hns
  compares _ _ hmatch := by rw [h'] at hmatch; cases hmatch

/-- A deed that is no match. -/
theorem Deed.Founded.of_names {w : World} {d : Deed}
    (h : ∀ ns, d.namespace? = some ns → w.Addresses ns) (h' : d.match? = none) : d.Founded w where
  addresses := h
  compares _ _ hmatch := by rw [h'] at hmatch; cases hmatch

/-- Founded deeds one after the other, the latest first. -/
inductive Course [Library] : World → List Deed → World → Prop
  | refl (w : World) : Course w [] w
  | step {w w₁ w' : World} {deeds : List Deed} {d : Deed} :
      Course w deeds w₁ → Step w₁ d w' → d.Founded w₁ → Course w (d :: deeds) w'

namespace Course

variable {w w₁ w' : World} {deeds earlier later : List Deed} {d : Deed}

theorem trans [Library] (h : Course w earlier w₁) (h' : Course w₁ later w') :
    Course w (later ++ earlier) w' := by
  induction h' with
  | refl => exact h
  | step _ hstep hfounded ih => exact .step ih hstep hfounded

theorem single [Library] (h : Step w d w') (hfounded : d.Founded w) : Course w [d] w' :=
  .step (.refl w) h hfounded

theorem steps [Library] (h : Course w deeds w') : Steps w deeds w' := by
  induction h with
  | refl => exact .refl _
  | step _ hstep _ ih => exact .step ih hstep

end Course

end Script

end ClusterScript
