import ClusterScript.Script.Operations
import ClusterScript.Script.Logs
import Mathlib.Data.List.Forall2

/-!
# What calls on handles of logs need

A call on the handle of a log is given patterns, or nothing. With arguments
that fit, it needs the log from the cluster if it is to read it again, or if it
tells of a text and the handle has none.

* `Value.Denotes`, `patterns_ok_iff`, `patterns_error`: the tests that
  arguments stand for.
* `Fits`: the arguments that a call takes.
* `Needs`, `answer`: whether a call asks the cluster, and what that answers.
-/
namespace ClusterScript.Script

/-- A string is an expression that stands for a test. -/
def Value.Denotes [Library] (v : Value) (p : String → Bool) : Prop :=
  ∃ s, v.hostText = .ok (some s) ∧ Library.compile s = .ok p

namespace Logs

section

variable {f : Fault} {v : Value} {args before rest : List Value} {ps : List (String → Bool)}

/-! ## Patterns -/

theorem hostText_of_typeName (h : v.typeName ≠ "string") : v.hostText = .ok none := by
  cases v with
  | text | bytes => exact absurd rfl h
  | _ => rfl

variable [Library]

theorem patterns_cons {p : String → Bool} (h : v.Denotes p) :
    patterns (v :: rest) = (patterns rest).map (p :: ·) := by
  obtain ⟨s, hs, hp⟩ := h
  rw [patterns, hs]
  simp only [bind, Except.bind, hp]
  cases patterns rest <;> rfl

/-- A first argument that denotes no pattern decides what is wrong. -/
theorem patterns_cons_error (v : Value) (rest : List Value) :
    (∀ f, v.hostText = .error f → patterns (v :: rest) = .error f) ∧
    (v.hostText = .ok none →
      patterns (v :: rest) = .error (.refused (.patternType v.typeName))) ∧
    ∀ s text, v.hostText = .ok (some s) → Library.compile s = .error text →
      patterns (v :: rest) = .error (.refused (.badPattern text)) := by
  refine ⟨fun f h => ?_, fun h => ?_, fun s text h hs => ?_⟩
  · rw [patterns, h]
    rfl
  · rw [patterns, h]
    rfl
  · rw [patterns, h]
    simp only [bind, Except.bind, hs]
    rfl

theorem patterns_ok_iff : patterns args = .ok ps ↔ List.Forall₂ Value.Denotes args ps := by
  induction args generalizing ps with
  | nil =>
    cases ps with
    | nil => simp [patterns]
    | cons => simp [patterns]
  | cons v rest ih =>
    obtain ⟨hconversion, htype, hbad⟩ := patterns_cons_error v rest
    constructor
    · intro h
      obtain ⟨p, hv⟩ : ∃ p, v.Denotes p := by
        cases htext : v.hostText with
        | error f => exact nomatch (hconversion f htext).symm.trans h
        | ok text =>
          cases text with
          | none => exact nomatch (htype htext).symm.trans h
          | some s =>
            cases hp : Library.compile s with
            | error text => exact nomatch (hbad s text htext hp).symm.trans h
            | ok p => exact ⟨p, s, htext, hp⟩
      rw [patterns_cons hv] at h
      cases hrest : patterns rest with
      | error f =>
        rw [hrest] at h
        cases h
      | ok qs =>
        rw [hrest] at h
        cases h
        exact .cons hv (ih.1 hrest)
    · intro h
      cases h with
      | cons hv hrest =>
        rw [patterns_cons hv, ih.2 hrest]
        rfl

/-- The first argument that denotes no pattern decides what is wrong. -/
theorem patterns_error (hbefore : ∀ u ∈ before, ∃ p, u.Denotes p)
    (h : patterns (v :: rest) = .error f) :
    patterns (before ++ v :: rest) = .error f := by
  induction before with
  | nil => exact h
  | cons u before ih =>
    obtain ⟨p, hu⟩ := hbefore u List.mem_cons_self
    rw [List.cons_append, patterns_cons hu, ih fun x hx => hbefore x (List.mem_cons_of_mem u hx)]
    rfl

end

/-! ## Asking the cluster -/

/-- Bodies that tell of the text. -/
def reads : LogBody → Bool
  | .text | .lines | .puts | .grep => true
  | .refresh | .describe => false

section

variable [Library]

/-- The arguments that a body takes: `grep` takes patterns, one at least. -/
def Fits (b : LogBody) (args : List Value) : Prop :=
  b = .grep → args ≠ [] ∧ ∃ ps, List.Forall₂ Value.Denotes args ps

theorem fits_iff_patterns {b : LogBody} {args : List Value} :
    Fits b args ↔ (b = .grep → args ≠ [] ∧ (patterns args).isOk = true) := by
  have hpatterns : (∃ ps, List.Forall₂ Value.Denotes args ps) ↔ (patterns args).isOk = true := by
    constructor
    · rintro ⟨ps, hps⟩
      rw [patterns_ok_iff.2 hps]
      rfl
    · intro h
      cases hps : patterns args with
      | ok ps => exact ⟨ps, patterns_ok_iff.1 hps⟩
      | error f =>
        rw [hps] at h
        cases h
  rw [Fits, hpatterns]

instance (b : LogBody) (args : List Value) : Decidable (Fits b args) :=
  decidable_of_iff' _ fits_iff_patterns

/-- Whether a call needs the log from the cluster: to read it again, or because there is no text
to tell of and nothing is wrong with the arguments. -/
def Needs (b : LogBody) (args : List Value) (cached : Option String) : Prop :=
  Fits b args ∧ (b = .refresh ∨ reads b = true ∧ cached = none)

instance (b : LogBody) (args : List Value) (cached : Option String) :
    Decidable (Needs b args cached) := inferInstanceAs (Decidable (_ ∧ _))

/-- What the cluster answers to a call on a handle, if it is asked. -/
def answer (w : World) (i : Instance) (b : LogBody) (args : List Value) :
    Option (Except Fault String) :=
  match w.registry.lookup i, w.host with
  | .ok (.logs ns pod cached), some session =>
    if Needs b args cached then some (session.cluster.logs ns pod).1 else none
  | _, _ => none

theorem answer_eq {w : World} {i : Instance} {session : Host} {b : LogBody} {args : List Value}
    {ns pod : String} {cached : Option String}
    (hi : w.registry.lookup i = .ok (.logs ns pod cached)) (hhost : w.host = some session) :
    answer w i b args =
      if Needs b args cached then some (session.cluster.logs ns pod).1 else none := by
  rw [answer, hi, hhost]

end

end Logs

end ClusterScript.Script
