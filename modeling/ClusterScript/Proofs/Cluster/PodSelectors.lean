import ClusterScript.Cluster.Object
import ClusterScript.Proofs.Json.Members
import ClusterScript.Proofs.Script.Parameters
import ClusterScript.Proofs.Selector.LabelMatching
import ClusterScript.Script.Objects

/-!
# The pods that an object selects

An object that manages pods is decoded as one of its kind, and the labels of
its pods are taken from what was decoded. A library that keeps these labels
lets them be read off the object itself. The labels become a selector of sets
of one value each.

* `Library.KeepsSelectors`: decoding keeps the labels.
* `Object.podLabels`: the labels of an object's pods.
* `Object.podSelector_eq`: these are what is decoded.
* `podQuery_eq`: the query for the pods with some labels.
-/
namespace ClusterScript

/-- Decoding keeps the labels that a specification selects pods by: they are a map of texts that
is taken over member by member. -/
def Library.KeepsSelectors [Library] : Prop :=
  ∀ (r : Resource) (object typed : Json), r.findsPods = true → decode r object = .ok typed →
    Object.texts (Object.selectedLabels r typed) = Object.texts (Object.selectedLabels r object)

/-! ## Labels of pods -/

namespace Object

section

variable {r : Resource} {object typed : Json}

theorem selectedLabels_untyped : selectedLabels r (untyped object) = selectedLabels r object := by
  unfold selectedLabels untyped
  rw [Json.get_remove_ne (by decide), Json.get_remove_ne (by decide)]

/-- The labels of the pods of an object, read off the object itself. -/
def podLabels (r : Resource) (object : Json) : List (String × String) :=
  let selected := texts (selectedLabels r object)
  if selected.isEmpty then labels object else selected

/-- Where an object can be decoded, the labels of its pods are those it has itself. -/
theorem podSelector_eq [Library] (hkeeps : Library.KeepsSelectors)
    (h : Library.decode r (untyped object) = .ok typed) (hr : r.findsPods = true) :
    podSelector r object = .ok (podLabels r object) := by
  have hdecoded : decodedLabels r object = .ok (texts (selectedLabels r object)) := by
    rw [decodedLabels, h, ← selectedLabels_untyped, ← hkeeps r _ _ hr h]
    rfl
  rw [podSelector, if_pos hr, hdecoded]
  rfl

end

end Object

/-! ## The query for pods -/

namespace Script.Objects

open Selector (Word PlainText Expression)

section

variable {labels : List (String × String)} {ns : String} {object : Json}

/-- The text of a selector for labels. -/
def labelsText (labels : List (String × String)) : String :=
  Text.join "," (labels.map fun p => Expression.setText p.1 "in" [p.2])

theorem labelExpressions_eq : ∀ {labels : List (String × String)}, (∀ p ∈ labels, Word p.1) →
    ∃ es, labelExpressions labels = .ok es ∧
      es.map Expression.label = labels.map fun p => Expression.setText p.1 "in" [p.2]
  | [], _ => ⟨[], rfl, rfl⟩
  | (k, v) :: rest, h => by
    obtain ⟨es, hes, htexts⟩ := labelExpressions_eq fun p hp => h p (List.mem_cons_of_mem _ hp)
    have hk : Text.blank k = false := (h (k, v) List.mem_cons_self).not_blank
    let e : Expression := ⟨k, .isIn, [v], hk, by simp⟩
    have he : Expression.make? k .isIn [v] = .ok e := Expression.make?_eq_ok.2 ⟨rfl, rfl, rfl⟩
    refine ⟨e :: es, ?_, by rw [List.map_cons, List.map_cons, htexts]; rfl⟩
    rw [labelExpressions, he, hes]
    rfl

/-- The query for the pods with some labels. -/
theorem podQuery_eq (h : ∀ p ∈ labels, Word p.1) :
    podQuery ns labels = .ok ⟨.named ns, none, ⟨labelsText labels, ""⟩⟩ := by
  obtain ⟨es, hes, htexts⟩ := labelExpressions_eq h
  rw [podQuery, hes]
  show (Except.ok _ : Except Refusal Query) = _
  rw [labelsText, ← htexts]

end

end Script.Objects

end ClusterScript
