import ClusterScript.Cluster.Decoding
import ClusterScript.Proofs.Cluster.Pods
import ClusterScript.Proofs.Cluster.Requests
import Mathlib.Data.List.Nodup

/-!
# A store is a map

The objects of a store lie under their kind, their namespace and their name,
in the order they came. As long as no key comes twice, a store answers as a
map does: an object is found under its key and nowhere else, a key that is
taken is not given again, and a deletion takes one object out and leaves the
order of the rest. No question ever makes a key come twice.

* `Store.key?`: the key of an object.
* `Store.Serves`: how a map serves a question, failures included.
* `serves_answer`: a store with distinct keys serves one question so.
* `Serves.nodup`: and its keys are distinct afterwards.
* `serves_all`: the same of any row of questions.
-/
namespace ClusterScript

namespace Store

/-! ## Keys -/

/-- Kind, namespace and name of an object. An object whose kind is no text has no key: no
question is about it. -/
def key? (object : Json) : Option (String × String × String) :=
  (object.get "kind").asString?.map fun kind =>
    (kind, Object.namespaceName object, Object.name object)

/-- The keys of the objects, in their order. -/
def keys (s : Store) : List (String × String × String) := s.objects.filterMap key?

/-- An object as a store takes it in: under its new key, and otherwise as it was, up to the
time of its creation. -/
structure TakenIn (r : Resource) (ns : String) (object created : Json) : Prop where
  key : key? created = some (r.kind, ns, Object.name object)
  other : ∀ field, field ≠ "kind" → field ≠ "metadata" → created.get field = object.get field
  metadata : ∀ field, field ≠ "namespace" → field ≠ "creationTimestamp" →
    (created.get "metadata").get field = (object.get "metadata").get field

/-- Whether a list of a kind, in a namespace or in all, has an object among its items. -/
def Lists (r : Resource) (ns : Option String) (o : ListOptions) (object : Json) : Prop :=
  (∃ own name, key? object = some (r.kind, own, name) ∧ ∀ wanted ∈ ns, own = wanted) ∧
    Selector.holds o.labels ((object.get "metadata").get "labels") = true

/-- How a map from keys to objects, in the order they came, serves a question: what it answers
and what is left. A question that fails leaves everything. -/
inductive Serves (s : Store) : ClusterRequest → Except Fault ClusterAnswer → Store → Prop
  | found {r : Resource} {ns name : String} {object : Json} : object ∈ s.objects →
      key? object = some (r.kind, ns, name) →
      Serves s (.get r ns name) (.ok (.object object)) s
  | missing {r : Resource} {ns name : String} : (r.kind, ns, name) ∉ s.keys →
      Serves s (.get r ns name) (.error (notFound r name)) s
  | listed {r : Resource} {ns : Option String} {o : ListOptions} {items : List Json} :
      items.Sublist s.objects →
      (∀ object, object ∈ items ↔ object ∈ s.objects ∧ Lists r ns o object) →
      Serves s (.list r ns o) (.ok (.objects items)) { s with listed := (ns, o) :: s.listed }
  | created {r : Resource} {ns : String} {object created : Json} :
      (r.kind, ns, Object.name object) ∉ s.keys → TakenIn r ns object created →
      Serves s (.create r ns object) (.ok (.object created))
        { s with objects := s.objects ++ [created] }
  | taken {r : Resource} {ns : String} {object : Json} :
      (r.kind, ns, Object.name object) ∈ s.keys →
      Serves s (.create r ns object) (.error (alreadyExists r (Object.name object))) s
  | deleted {r : Resource} {ns name : String} {before after : List Json} {object : Json} :
      s.objects = before ++ object :: after → key? object = some (r.kind, ns, name) →
      Serves s (.delete r ns name) (.ok .done)
        { s with objects := before ++ after, deleted := (r.kind, ns, name) :: s.deleted }
  | absent {r : Resource} {ns name : String} : (r.kind, ns, name) ∉ s.keys →
      Serves s (.delete r ns name) (.error (notFound r name)) s
  | logged {ns pod : String} : Serves s (.logs ns pod) ((s.logs ns pod).map .log) s

/-- How a map serves a row of questions, each on what the one before has left. -/
inductive ServesAll : Store → List ClusterRequest → List (Except Fault ClusterAnswer) → Store → Prop
  | nil {s : Store} : ServesAll s [] [] s
  | cons {s s₁ s' : Store} {q : ClusterRequest} {rest : List ClusterRequest}
      {a : Except Fault ClusterAnswer} {answers : List (Except Fault ClusterAnswer)} :
      Serves s q a s₁ → ServesAll s₁ rest answers s' → ServesAll s (q :: rest) (a :: answers) s'

end Store

/-- A question that a store can take as it is: what is to be created is an object with metadata
and a name in them. -/
def ClusterRequest.Storable : ClusterRequest → Prop
  | .create _ _ object => ∃ members metadata name, object = .obj members ∧
      object.get "metadata" = .obj metadata ∧ (Json.obj metadata).get "name" = .str name
  | _ => True

namespace Store

section

variable {r : Resource} {ns name : String} {object : Json} {s s' : Store}
variable {k : String × String × String} {q : ClusterRequest} {a : Except Fault ClusterAnswer}

theorem asString?_eq_some {j : Json} {text : String} :
    j.asString? = some text ↔ j = .str text := by
  cases j <;> simp [Json.asString?]

theorem isAt_iff : isAt r ns name object = true ↔ key? object = some (r.kind, ns, name) := by
  unfold isAt key?
  rw [Bool.and_eq_true, Bool.and_eq_true, hasKind_iff, decide_eq_true_iff, decide_eq_true_iff,
    Option.map_eq_some_iff]
  constructor
  · rintro ⟨⟨hkind, hns⟩, hname⟩
    exact ⟨r.kind, asString?_eq_some.2 hkind, by rw [hns, hname]⟩
  · rintro ⟨kind, hkind, hkey⟩
    obtain ⟨rfl, hns, hname⟩ : kind = r.kind ∧ Object.namespaceName object = ns ∧
      Object.name object = name := by simpa using hkey
    exact ⟨⟨asString?_eq_some.1 hkind, hns⟩, hname⟩

theorem mem_keys : k ∈ s.keys ↔ ∃ object ∈ s.objects, key? object = some k :=
  List.mem_filterMap

/-- Whether an object is there is a question about the keys. -/
theorem any_isAt : s.objects.any (isAt r ns name) = true ↔ (r.kind, ns, name) ∈ s.keys := by
  rw [List.any_eq_true, mem_keys]
  simp only [isAt_iff]

theorem any_isAt_eq_false :
    s.objects.any (isAt r ns name) = false ↔ (r.kind, ns, name) ∉ s.keys := by
  rw [← any_isAt, Bool.not_eq_true]

/-- Where keys are distinct, all objects but one are under other keys. -/
theorem key?_ne_of_nodup {before after : List Json} {other : Json}
    (hs : ((before ++ object :: after).filterMap key?).Nodup) (hkey : key? object = some k)
    (hother : other ∈ before ++ after) : key? other ≠ some k := by
  intro hkey'
  have hperm : ((before ++ object :: after).filterMap key?).Perm
      (k :: (before ++ after).filterMap key?) := by
    rw [← List.filterMap_cons_some hkey]
    exact List.perm_middle.filterMap key?
  have htwice : k ∈ (before ++ after).filterMap key? :=
    List.mem_filterMap.2 ⟨other, hother, hkey'⟩
  exact (List.nodup_cons.1 (hperm.nodup_iff.1 hs)).1 htwice

/-! ## One question -/

theorem serves_get : Serves s (.get r ns name) ((s.get r ns name).map .object) s := by
  unfold Store.get
  cases hfind : s.objects.find? (isAt r ns name) with
  | some object =>
    have hkey : key? object = some (r.kind, ns, name) := isAt_iff.1 (List.find?_some hfind)
    exact .found (List.mem_of_find?_eq_some hfind) hkey
  | none =>
    have habsent : (r.kind, ns, name) ∉ s.keys := by
      intro hmem
      obtain ⟨object, hobject, hkey⟩ := mem_keys.1 hmem
      exact List.find?_eq_none.1 hfind object hobject (isAt_iff.2 hkey)
    exact .missing habsent

theorem lists_iff {ns : Option String} {o : ListOptions} :
    (hasKind r.kind object && ns.all (fun n => Object.namespaceName object = n) &&
      Selector.holds o.labels ((object.get "metadata").get "labels")) = true ↔
    Lists r ns o object := by
  unfold Lists key?
  rw [Bool.and_eq_true, Bool.and_eq_true, hasKind_iff, Option.all_eq_true]
  refine and_congr_left fun _ => ⟨?_, ?_⟩
  · rintro ⟨hkind, hns⟩
    rw [asString?_eq_some.2 hkind]
    exact ⟨_, _, rfl, fun wanted hwanted => of_decide_eq_true (hns wanted hwanted)⟩
  · rintro ⟨own, name, hkey, hns⟩
    obtain ⟨kind, hkind, hkey⟩ := Option.map_eq_some_iff.1 hkey
    obtain ⟨rfl, rfl, -⟩ : kind = r.kind ∧ Object.namespaceName object = own ∧
      Object.name object = name := by simpa using hkey
    exact ⟨asString?_eq_some.1 hkind, fun wanted hwanted => decide_eq_true (hns wanted hwanted)⟩

theorem serves_list {ns : Option String} {o : ListOptions} :
    Serves s (.list r ns o) (.ok (.objects (s.select r ns o)))
      { s with listed := (ns, o) :: s.listed } := by
  unfold Store.select
  refine .listed List.filter_sublist fun object => ?_
  rw [List.mem_filter, lists_iff]

theorem takenIn_adopted (members : List (String × Json)) :
    TakenIn r ns (.obj members) (adopted r ns (.obj members)) where
  key := isAt_iff.1 (isAt_adopted members)
  other _ hkind hmetadata := get_adopted hkind hmetadata
  metadata _ hns htime := get_metadata_adopted hns htime

theorem serves_create (members : List (String × Json)) :
    Serves s (.create r ns (.obj members)) ((s.create r ns (.obj members)).1.map .object)
      (s.create r ns (.obj members)).2 := by
  cases hany : s.objects.any (isAt r ns (Object.name (.obj members))) with
  | true =>
    rw [create_present hany]
    exact .taken (any_isAt.1 hany)
  | false =>
    rw [(create_absent members hany).1]
    exact .created (any_isAt_eq_false.1 hany) (takenIn_adopted members)

theorem filter_not_isAt {before after : List Json}
    (hs : ((before ++ object :: after).filterMap key?).Nodup)
    (hkey : key? object = some (r.kind, ns, name)) :
    (before ++ object :: after).filter (fun o => !isAt r ns name o) = before ++ after := by
  have hother : ∀ o ∈ before ++ after, (!isAt r ns name o) = true := by
    intro o ho
    rw [Bool.not_eq_true', Bool.eq_false_iff]
    exact fun hat => key?_ne_of_nodup hs hkey ho (isAt_iff.1 hat)
  have hhere : isAt r ns name object = true := isAt_iff.2 hkey
  rw [List.filter_append, List.filter_cons_of_neg (by simp [hhere]), ← List.filter_append]
  exact List.filter_eq_self.2 hother

theorem serves_delete (hs : s.keys.Nodup) :
    Serves s (.delete r ns name) ((s.delete r ns name).1.map fun _ => .done)
      (s.delete r ns name).2 := by
  unfold Store.delete
  by_cases hany : s.objects.any (isAt r ns name) = true
  · rw [if_pos hany]
    obtain ⟨object, hobject, hat⟩ := List.any_eq_true.1 hany
    obtain ⟨before, after, hobjects⟩ := List.append_of_mem hobject
    have hkey : key? object = some (r.kind, ns, name) := isAt_iff.1 hat
    have hrest : s.objects.filter (fun o => !isAt r ns name o) = before ++ after := by
      rw [keys, hobjects] at hs
      rw [hobjects]
      exact filter_not_isAt hs hkey
    rw [hrest]
    exact .deleted hobjects hkey
  · rw [if_neg hany]
    exact .absent fun hmem => hany (any_isAt.2 hmem)

/-- A store with distinct keys serves every question as a map does. -/
theorem serves_answer [Library] (hs : s.keys.Nodup) (hq : q.Storable) :
    ∃ s', q.answered (.store s) = .store s' ∧ Serves s q (q.answer (.store s)) s' := by
  cases q with
  | get r ns name => exact ⟨s, rfl, serves_get⟩
  | list r ns o => exact ⟨_, rfl, serves_list⟩
  | create r ns object =>
    obtain ⟨members, -, -, rfl, -, -⟩ := hq
    exact ⟨_, rfl, serves_create members⟩
  | delete r ns name => exact ⟨_, rfl, serves_delete hs⟩
  | logs ns pod => exact ⟨s, rfl, .logged⟩

/-- No question makes a key come twice. -/
theorem Serves.nodup (h : Serves s q a s') (hs : s.keys.Nodup) : s'.keys.Nodup := by
  cases h with
  | found | missing | listed | taken | absent | logged => exact hs
  | @created r ns object created hfresh htaken =>
    have hkeys : keys { s with objects := s.objects ++ [created] } =
        s.keys ++ [(r.kind, ns, Object.name object)] := by
      rw [keys, List.filterMap_append, List.filterMap_cons_some htaken.key, List.filterMap_nil]
      rfl
    rw [hkeys]
    exact List.nodup_append.2 ⟨hs, List.nodup_singleton _, by
      intro k hk k' hk' heq
      rw [List.mem_singleton.1 hk'] at heq
      exact hfresh (heq ▸ hk)⟩
  | deleted hobjects hkey =>
    rw [keys, hobjects] at hs
    refine List.Nodup.sublist (List.Sublist.filterMap key? ?_) hs
    exact List.Sublist.append_left (List.sublist_cons_self _ _) _

/-- A question that fails leaves the store as it was. -/
theorem Serves.unchanged {f : Fault} (h : Serves s q a s') (ha : a = .error f) : s' = s := by
  cases h with
  | missing | taken | absent | logged => rfl
  | found | listed | created | deleted => cases ha

theorem get_eq_ok_iff (hs : s.keys.Nodup) : s.get r ns name = .ok object ↔
    object ∈ s.objects ∧ key? object = some (r.kind, ns, name) := by
  have hget : Serves s (.get r ns name) ((s.get r ns name).map .object) s := serves_get
  constructor
  · intro h
    rw [h] at hget
    cases hget with
    | found hobject hkey => exact ⟨hobject, hkey⟩
  · rintro ⟨hobject, hkey⟩
    cases h : s.get r ns name with
    | error f =>
      rw [h] at hget
      cases hget with
      | missing habsent => exact absurd (mem_keys.2 ⟨object, hobject, hkey⟩) habsent
    | ok other =>
      rw [h] at hget
      cases hget with
      | found hother hkey' =>
        obtain ⟨before, after, hobjects⟩ := List.append_of_mem hobject
        rw [keys, hobjects] at hs
        rw [hobjects] at hother
        have hmem : other = object ∨ other ∈ before ++ after := by
          simpa [or_left_comm] using hother
        rcases hmem with rfl | hmem
        · rfl
        · exact absurd hkey' (key?_ne_of_nodup hs hkey hmem)

theorem create_fails_iff :
    (∃ f, (s.create r ns object).1 = .error f) ↔ (r.kind, ns, Object.name object) ∈ s.keys := by
  rw [← any_isAt]
  unfold create
  by_cases hany : s.objects.any (isAt r ns (Object.name object)) = true <;> simp [hany]

theorem delete_fails_iff :
    (∃ f, (s.delete r ns name).1 = .error f) ↔ (r.kind, ns, name) ∉ s.keys := by
  rw [← any_isAt_eq_false]
  unfold delete
  by_cases hany : s.objects.any (isAt r ns name) = true <;> simp [hany]

/-! ## Rows of questions -/

theorem servesAll_putAll [Library] : ∀ {calls : List ClusterRequest} {s : Store}, s.keys.Nodup →
    (∀ q ∈ calls, q.Storable) →
    ∃ s', (ClusterRequest.putAll calls (.store s)).2 = .store s' ∧
      ServesAll s calls (ClusterRequest.putAll calls (.store s)).1 s' ∧ s'.keys.Nodup
  | [], s, hs, _ => ⟨s, rfl, .nil, hs⟩
  | q :: rest, s, hs, hcalls => by
    obtain ⟨s₁, hanswered, hserves⟩ := serves_answer hs (hcalls q (by simp))
    obtain ⟨s', hlast, hrest, hs'⟩ := servesAll_putAll (hserves.nodup hs)
      fun q hq => hcalls q (List.mem_cons_of_mem _ hq)
    refine ⟨s', ?_, ?_, hs'⟩
    · rw [ClusterRequest.putAll, hanswered]
      exact hlast
    · rw [ClusterRequest.putAll, hanswered]
      exact .cons hserves hrest

/-- **A store is a map from kind, namespace and name to objects, in the order they came.**
Where the keys of a store are distinct, any row of questions is served as such a map serves it
(`ServesAll`), and leaves a store whose keys are distinct. There

* a creation fails exactly if the key is taken, and else adds the object at the end, under the
  kind and the namespace that were given;
* a deletion fails exactly if nothing is under the key, and else takes the one object out and
  keeps a record of the key;
* what is found under a key is the one object that has it;
* a question that fails changes nothing. -/
theorem serves_all [Library] {calls : List ClusterRequest} (hs : s.keys.Nodup)
    (hcalls : ∀ q ∈ calls, q.Storable) :
    ∃ s', (ClusterRequest.putAll calls (.store s)).2 = .store s' ∧
      ServesAll s calls (ClusterRequest.putAll calls (.store s)).1 s' ∧ s'.keys.Nodup ∧
      (∀ r ns object, (∃ f, (s'.create r ns object).1 = .error f) ↔
        (r.kind, ns, Object.name object) ∈ s'.keys) ∧
      (∀ r ns name, (∃ f, (s'.delete r ns name).1 = .error f) ↔ (r.kind, ns, name) ∉ s'.keys) ∧
      (∀ r ns name object, s'.get r ns name = .ok object ↔
        object ∈ s'.objects ∧ key? object = some (r.kind, ns, name)) ∧
      ∀ q f, ClusterRequest.Storable q → q.answer (.store s') = .error f →
        q.answered (.store s') = .store s' := by
  obtain ⟨s', hlast, hserved, hs'⟩ := servesAll_putAll hs hcalls
  refine ⟨s', hlast, hserved, hs', fun _ _ _ => create_fails_iff, fun _ _ _ => delete_fails_iff,
    fun _ _ _ _ => get_eq_ok_iff hs', fun q f hq hfails => ?_⟩
  obtain ⟨s'', hanswered, hserves⟩ := serves_answer hs' hq
  rw [hanswered, hserves.unchanged hfails]

end

section

open Library.Standard

/-- A pod is created twice, deleted twice and created again. -/
def webCalls : List ClusterRequest :=
  let web : Json := .obj [("metadata", .obj [("name", .str "web")])]
  [.create .pod "shop" web, .create .pod "shop" web, .delete .pod "shop" "web",
    .delete .pod "shop" "web", .create .pod "shop" web, .get .pod "shop" "web"]

/-- The second creation and the second deletion fail. -/
theorem serves_all_web :
    let s := Store.empty.seed "Pod" "shop" "api" (.obj [])
    let served := ClusterRequest.putAll webCalls (.store s)
    s.keys.Nodup ∧ (∀ q ∈ webCalls, q.Storable) ∧
      served.1.map (·.isOk) = [true, false, true, false, true, true] ∧
      ∃ s', served.2 = .store s' ∧ ServesAll s webCalls served.1 s' ∧ s'.keys.Nodup := by
  intro s served
  have hkeys : s.keys.Nodup := by decide +kernel
  have hcalls : ∀ q ∈ webCalls, q.Storable := by
    have hweb : (ClusterRequest.create .pod "shop"
        (.obj [("metadata", .obj [("name", .str "web")])])).Storable := ⟨_, _, _, rfl, rfl, rfl⟩
    intro q hq
    simp only [webCalls, List.mem_cons, List.not_mem_nil, or_false] at hq
    rcases hq with rfl | rfl | rfl | rfl | rfl | rfl
    all_goals first | exact hweb | trivial
  obtain ⟨s', hlast, hserved, hdistinct, -⟩ := serves_all hkeys hcalls
  exact ⟨hkeys, hcalls, by decide +kernel, s', hlast, hserved, hdistinct⟩

end

end Store

end ClusterScript
