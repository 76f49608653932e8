import ClusterScript.Cluster.Decoding
import ClusterScript.Proofs.Cluster.Paging
import ClusterScript.Proofs.Cluster.PodSelectors

/-!
# What the library of the program keeps

An object is decoded by the schema of its kind, which leaves what it knows as
it stands in the object, so the labels that an object selects pods by are kept.
A page is read off a reply, its token and its objects from their places.

* `Schema.read_optional`: what reading by a record does to an optional member.
* `Library.Standard.keepsSelectors`, `Library.Standard.readsPages`: the properties of the library.
-/
namespace ClusterScript

open Script (bind_eq_ok)

/-! ## Reading by a record -/

namespace Schema

section

variable {fields : List (String × Schema × Option Json)} {j v : Json} {name : String}
variable {members : List (String × Json)} {s : Schema} {fallback : Option Json}

/-- The first of the fields is read where the object has it, and the rest after it. -/
theorem readFields_cons (h : readFields ((name, s, fallback) :: fields) j = .ok members) :
    ∃ here more, members = (here.map fun v => (name, v)).toList ++ more ∧
      readFields fields j = .ok more ∧
      ((j.get name = .null ∧ here = fallback) ∨
        ∃ v, s.read (j.get name) = .ok v ∧ here = some v) := by
  rw [readFields] at h
  split at h
  · next hnull =>
    obtain ⟨here, hhere, h⟩ := bind_eq_ok h
    obtain ⟨more, hmore, h⟩ := bind_eq_ok h
    cases hhere
    cases h
    exact ⟨fallback, more, rfl, hmore, .inl ⟨hnull, rfl⟩⟩
  · obtain ⟨v, hv, h⟩ := bind_eq_ok h
    obtain ⟨here, hhere, h⟩ := bind_eq_ok h
    obtain ⟨more, hmore, h⟩ := bind_eq_ok h
    cases hhere
    cases h
    exact ⟨some v, more, rfl, hmore, .inr ⟨v, hv, rfl⟩⟩

theorem lookup_here (here : Option Json) (more : List (String × Json)) (other : String) :
    ((here.map fun v => (name, v)).toList ++ more).lookup other =
      if other = name then here.or (more.lookup other) else more.lookup other := by
  cases here with
  | none => simp
  | some v =>
    by_cases hother : other = name
    · simp [hother]
    · have hbeq : (other == name) = false := beq_eq_false_iff_ne.2 hother
      simp [hother, List.lookup_cons, hbeq]

/-- Nothing is read that is not known. -/
theorem lookup_unknown : ∀ {fields members}, readFields fields j = .ok members →
    name ∉ fields.map Prod.fst → members.lookup name = none
  | [], members, h, _ => by
    rw [readFields] at h
    cases h
    rfl
  | (first, s, fallback) :: rest, members, h, hname => by
    rw [List.map_cons, List.mem_cons, not_or] at hname
    obtain ⟨here, more, rfl, hmore, -⟩ := readFields_cons h
    rw [lookup_here, if_neg hname.1, lookup_unknown hmore hname.2]

theorem lookup_known : ∀ {fields members}, readFields fields j = .ok members →
    (fields.map Prod.fst).Nodup → (name, s, fallback) ∈ fields →
      (j.get name = .null ∧ members.lookup name = fallback) ∨
        ∃ v, s.read (j.get name) = .ok v ∧ members.lookup name = some v
  | (first, s', fallback') :: rest, members, h, hnodup, hmem => by
    rw [List.map_cons, List.nodup_cons] at hnodup
    obtain ⟨here, more, rfl, hmore, hhere⟩ := readFields_cons h
    rw [lookup_here]
    rcases List.mem_cons.1 hmem with heq | hlater
    · cases heq
      rw [if_pos rfl, lookup_unknown hmore hnodup.1, Option.or_none]
      exact hhere
    · have hother : name ≠ first := by
        rintro rfl
        exact hnodup.1 (List.mem_map.2 ⟨_, hlater, rfl⟩)
      rw [if_neg hother]
      exact lookup_known hmore hnodup.2 hlater

/-- An optional member is read where it is there. -/
theorem read_optional (name : String) (s : Schema) {record : String}
    (h : (Schema.record record fields).read j = .ok v)
    (hnodup : (fields.map Prod.fst).Nodup) (hmem : Schema.optional name s ∈ fields) :
    (j.get name = .null ∧ v.get name = .null) ∨ s.read (j.get name) = .ok (v.get name) := by
  cases j with
  | obj =>
    rw [read] at h
    obtain ⟨members, hmembers, h⟩ := bind_eq_ok h
    cases h
    rcases lookup_known hmembers hnodup hmem with ⟨hnull, hlookup⟩ | ⟨v, hv, hlookup⟩
    · exact .inl ⟨hnull, by rw [Json.get, hlookup]; rfl⟩
    · exact .inr (by rw [hv, Json.get, hlookup]; rfl)
  | _ => simp [read, expect] at h

theorem read_text (h : Schema.text.read j = .ok v) : v = j := by
  cases j with
  | str s =>
    cases h
    rfl
  | _ => cases h

theorem read_textMap (h : Schema.textMap.read j = .ok v) : v = j := by
  cases j with
  | obj members =>
    rw [read] at h
    obtain ⟨_, -, h⟩ := bind_eq_ok h
    cases h
    rfl
  | _ => simp [read, expect] at h

end

end Schema

/-! ## Labels of pods -/

namespace Object

section

variable {r : Resource} {object typed : Json}

/-- The schema of the part of a specification that names labels. -/
def selectorSchema : Resource → Schema
  | .service => .textMap
  | _ => labelSelectorSchema

theorem read_selector (h : (specSchema r).read object = .ok typed) (hr : r.findsPods = true) :
    (object.get "selector" = .null ∧ typed.get "selector" = .null) ∨
      (selectorSchema r).read (object.get "selector") = .ok (typed.get "selector") := by
  cases r with
  | pod => cases hr
  | service => exact Schema.read_optional "selector" .textMap h (by decide) (by simp)
  | deployment | replicaSet | daemonSet =>
    exact Schema.read_optional "selector" labelSelectorSchema h (by decide) (by simp)

/-- Reading keeps the labels that a specification selects pods by. -/
theorem selectedLabels_read (h : (schema r).read object = .ok typed) (hr : r.findsPods = true) :
    selectedLabels r typed = selectedLabels r object := by
  unfold selectedLabels
  rcases Schema.read_optional "spec" (specSchema r) h (by simp [Schema.optional])
    (by simp [Schema.optional]) with ⟨hobject, htyped⟩ | hspec
  · rw [hobject, htyped]
  rcases read_selector hspec hr with ⟨hobject, htyped⟩ | hselector
  · rw [hobject, htyped]
  have hlabels : labelSelectorSchema.read ((object.get "spec").get "selector") =
      .ok ((typed.get "spec").get "selector") →
        ((typed.get "spec").get "selector").get "matchLabels" =
          ((object.get "spec").get "selector").get "matchLabels" := by
    intro hread
    rcases Schema.read_optional "matchLabels" .textMap hread (by decide) (by simp) with
      ⟨hobject, htyped⟩ | hmap
    · rw [hobject, htyped]
    · exact Schema.read_textMap hmap
  cases r with
  | service => exact Schema.read_textMap hselector
  | pod | deployment | replicaSet | daemonSet => exact hlabels hselector

end

end Object

/-! ## Pages -/

namespace Page

section

variable {j : Json} {members : Members} {page : Page}

theorem readAll_forall₂ : ∀ {items objects}, Object.readAll items = .ok objects →
    List.Forall₂ (fun item object => Object.read item = .ok object) items objects
  | [], objects, h => by
    cases h
    exact .nil
  | j :: rest, objects, h => by
    obtain ⟨first, hfirst, h⟩ := bind_eq_ok h
    obtain ⟨more, hmore, h⟩ := bind_eq_ok h
    cases h
    exact .cons hfirst (readAll_forall₂ hmore)

theorem readItems_ok {objects : List Members} (h : readItems members = .ok objects) :
    ∃ items, ((Json.obj members).get "items" = .arr items ∨
        (Json.obj members).get "items" = .null ∧ items = []) ∧
      List.Forall₂ (fun item object => Object.read item = .ok object) items objects := by
  unfold readItems at h
  split at h
  · cases h
  · next hnull =>
    cases h
    exact ⟨[], .inr ⟨by rw [Json.get, hnull]; rfl, rfl⟩, .nil⟩
  · next items hitems =>
    exact ⟨items, .inl (by rw [Json.get, hitems]; rfl), readAll_forall₂ h⟩
  · cases h

/-- Reading the metadata of a page keeps its token. -/
theorem token_read {metadata typed : Json} (h : metaSchema.read metadata = .ok typed) :
    typed.get "continue" = metadata.get "continue" := by
  rcases Schema.read_optional "continue" .text h (by decide) (by simp) with
    ⟨hmetadata, htyped⟩ | htext
  · rw [hmetadata, htyped]
  · exact Schema.read_text htext

/-- The token of a page is the text in its metadata, and its objects are its items. -/
theorem read_ok (h : read j = .ok page) :
    page.next = ((j.get "metadata").get "continue").asString? ∧
      ∃ items, (j.get "items" = .arr items ∨ j.get "items" = .null ∧ items = []) ∧
        List.Forall₂ (fun item object => Object.read item = .ok object) items page.items := by
  cases j with
  | obj members =>
    obtain ⟨metadata, hmeta, h⟩ := bind_eq_ok h
    obtain ⟨objects, hobjects, h⟩ := bind_eq_ok h
    cases h
    refine ⟨?_, readItems_ok hobjects⟩
    have hmetadata : ((members.lookup "metadata").getD (.obj [])).get "continue" =
        ((Json.obj members).get "metadata").get "continue" := by
      show _ = ((members.lookup "metadata").getD .null).get "continue"
      cases members.lookup "metadata" <;> rfl
    rw [← hmetadata, ← token_read hmeta]
  | _ => cases h

end

end Page

namespace Library.Standard

variable {α : Type}

theorem ok_of_toOption {ε : Type} {result : Except ε α} {v : α}
    (h : result.toOption = some v) : result = .ok v := by
  cases result with
  | error e => cases h
  | ok w =>
    cases h
    rfl

theorem ok_of_mapError {result : Except Mismatch α} {v : α}
    (h : result.mapError Mismatch.message = .ok v) : result = .ok v := by
  cases result with
  | error m => cases h
  | ok w =>
    cases h
    rfl

/-- Decoding by schemas keeps the labels of selectors. -/
theorem keepsSelectors : KeepsSelectors := by
  intro r object typed hr h
  rw [Object.selectedLabels_read (ok_of_mapError h) hr]

/-- Pages are read off replies. -/
theorem readsPages : ReadsPages := by
  intro body page h
  obtain ⟨reply, hreply, hpage⟩ := Option.bind_eq_some_iff.1 h
  have hread : Page.read reply = .ok page := ok_of_toOption hpage
  obtain ⟨hnext, items, hitems, hobjects⟩ := Page.read_ok hread
  refine ⟨reply, items, ok_of_toOption hreply, hnext, hitems, hobjects.imp ?_⟩
  intro item object hobject
  show Except.mapError _ _ = _
  rw [hobject]
  rfl

end Library.Standard

end ClusterScript
