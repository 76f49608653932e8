import ClusterScript.Cluster.Pod
import ClusterScript.Cluster.Store
import ClusterScript.Proofs.Json.Members
import ClusterScript.Proofs.Text.Cutting

/-!
# Pods as trees, and objects in a store

A pod that is made of parameters shows them in its tree. A store that creates
an object keeps it as it was, up to its kind, its namespace and the time of
its creation; from then on it is the object of its kind, namespace and name.

* `PodParameters.Names`: which part of an image names a pod.
* `PodParameters.Shown`: a tree that shows the parameters of a pod.
* `PodParameters.shown_pod`: a pod shows its parameters.
* `Store.create_absent`, `Store.create_present`: creating an object.
-/
namespace ClusterScript

namespace PodParameters

/-! ## Names from images -/

/-- A text is the part of an image behind its last slash, up to a tag or a digest. -/
def Names (image name : String) : Prop :=
  ∃ path tag : List Char, image.toList = path ++ name.toList ++ tag ∧
    (path = [] ∨ path.getLast? = some '/') ∧ '/' ∉ name.toList ++ tag ∧
    (∀ c ∈ tag.head?, c = ':' ∨ c = '@') ∧ ∀ c ∈ name.toList, c ≠ ':' ∧ c ≠ '@'

theorem names_nameFromImage (image : String) : Names image (nameFromImage image) := by
  obtain ⟨path, last, hparts, himage, hpath, hslash⟩ := Text.splitOnChars_last '/' image.toList
  let word : Char → Bool := fun c => c != ':' && c != '@'
  have hname : (nameFromImage image).toList = last.takeWhile word := by
    simp [nameFromImage, Text.splitOn, hparts, word]
  have hlast : last.takeWhile word ++ last.dropWhile word = last := List.takeWhile_append_dropWhile
  refine ⟨path, last.dropWhile word, ?_, hpath, ?_, fun c hc => ?_, fun c hc => ?_⟩
  · rw [himage, hname, List.append_assoc, hlast]
  · rwa [hname, hlast]
  · have hstop := List.head?_dropWhile_not word last
    rw [Option.mem_def.1 hc] at hstop
    dsimp only at hstop
    simp only [word] at hstop
    by_cases hcolon : c = ':'
    · exact .inl hcolon
    · exact .inr (by simpa [hcolon] using hstop)
  · rw [hname] at hc
    simpa [word] using List.all_eq_true.1 List.all_takeWhile c hc

/-! ## The tree of a pod -/

/-- A tree shows the parameters of a pod of a name. -/
structure Shown (p : PodParameters) (name : String) (pod : Json) : Prop where
  named : Object.name pod = name
  label : ∀ key, ((pod.get "metadata").get "labels").get key =
    if key = "name" then .str name else (((p.labels.getD []).lookup key).map Json.str).getD .null
  container : ∃ c, (pod.get "spec").get "containers" = .arr [c] ∧ c.get "name" = .str name ∧
    c.get "image" = .str p.image ∧
    c.get "command" = (p.command.map fun texts => Json.arr (texts.map Json.str)).getD .null ∧
    c.get "env" = (p.env.map fun env => Json.arr
      (env.map fun e => Json.obj [("name", .str e.1), ("value", .str e.2)])).getD .null

section

variable {p : PodParameters} {pod : Json}

theorem get_textMap_concat {members : List (String × String)}
    (h : members.Pairwise fun a b => a.1 ≠ b.1) (name value key : String) :
    (textMap (members ++ [(name, value)])).get key =
      if key = name then .str value else ((members.lookup key).map Json.str).getD .null := by
  have hmapped : (members.map fun p => (p.1, Json.str p.2)).Pairwise fun a b => a.1 ≠ b.1 :=
    List.pairwise_map.2 h
  rw [textMap, Json.get_ofMembers, List.map_append, List.reverse_append]
  simp only [List.map_cons, List.map_nil, List.reverse_cons, List.reverse_nil, List.nil_append,
    List.singleton_append, List.lookup_cons]
  split
  · next hk => rw [beq_iff_eq.1 hk, if_pos rfl, Option.getD_some]
  · next hk =>
    rw [if_neg (beq_eq_false_iff_ne.1 hk), Json.lookup_reverse hmapped, Json.lookup_map_snd]

/-- A pod shows its parameters, and lies in the namespace that they give. -/
theorem shown_pod (h : p.pod = .ok pod)
    (hlabels : (p.labels.getD []).Pairwise fun a b => a.1 ≠ b.1) :
    p.Shown (p.name.getD (nameFromImage p.image)) pod ∧
      Object.namespaceName pod = p.namespaceName.getD "" ∧ ∃ members, pod = .obj members := by
  unfold PodParameters.pod at h
  dsimp only at h
  split at h
  · cases h
  · cases h
    refine ⟨⟨?_, fun key => ?_, ?_⟩, ?_, _, rfl⟩
    · cases hns : p.namespaceName <;>
        simp [Object.name, Object.metadata, Json.get_ofMembers, member, List.lookup_cons,
          Json.asString?]
    · rw [← get_textMap_concat hlabels]
      cases hns : p.namespaceName <;>
        simp [Json.get_ofMembers, member, List.lookup_cons]
    · refine ⟨_, by simp [Json.get_ofMembers]; rfl, ?_, ?_, ?_, ?_⟩
      · simp [Json.get_ofMembers]
      · simp [Json.get_ofMembers, List.lookup_cons]
      · cases hcommand : p.command <;> cases henv : p.env <;>
          simp [Json.get_ofMembers, member, List.lookup_cons]
      · have hentry : ∀ e : String × String,
            Json.ofMembers [("name", .str e.1), ("value", .str e.2)] =
              .obj [("name", .str e.1), ("value", .str e.2)] := fun _ => rfl
        cases hcommand : p.command <;> cases henv : p.env <;>
          simp [Json.get_ofMembers, member, List.lookup_cons, hentry]
    · cases hns : p.namespaceName <;>
        simp [Object.namespaceName, Object.metadata, Json.get_ofMembers, member, List.lookup_cons,
          Json.asString?]

end

end PodParameters

/-! ## Objects in a store -/

namespace Store

section

variable {r : Resource} {ns name : String} {object : Json} {s : Store}

theorem hasKind_iff {kind : String} : hasKind kind object = true ↔ object.get "kind" = .str kind :=
  Json.beq_str

/-- Of the metadata, a store sets the namespace and the time of creation. -/
theorem get_metadata_adopted {field : String} (hns : field ≠ "namespace")
    (htime : field ≠ "creationTimestamp") :
    ((adopted r ns object).get "metadata").get field = (object.get "metadata").get field := by
  cases object with
  | obj members =>
    have hput : ∀ j : Json, ((j.put "namespace" (.str ns)).put "creationTimestamp"
        (.str creationTime)).get field = j.get field := fun j => by
      rw [Json.get_put_ne htime, Json.get_put_ne hns]
    rw [adopted, show (Json.obj members).put "kind" (.str r.kind) = .obj _ from rfl,
      Json.get_put_self, hput]
    cases (Json.obj members).get "metadata" <;> rfl
  | _ => rfl

theorem get_adopted {field : String} (hkind : field ≠ "kind") (hmetadata : field ≠ "metadata") :
    (adopted r ns object).get field = object.get field := by
  rw [adopted, Json.get_put_ne hmetadata, Json.get_put_ne hkind]

theorem name_adopted : Object.name (adopted r ns object) = Object.name object := by
  rw [Object.name, Object.name, Object.metadata, Object.metadata,
    get_metadata_adopted (by decide) (by decide)]

theorem namespaceName_adopted (members : List (String × Json)) :
    Object.namespaceName (adopted r ns (.obj members)) = ns := by
  have hput : ∀ metadata : List (String × Json), (((Json.obj metadata).put "namespace"
      (.str ns)).put "creationTimestamp" (.str creationTime)).get "namespace" = .str ns := by
    intro metadata
    rw [Json.get_put_ne (by decide), Json.get_put_self]
  rw [Object.namespaceName, Object.metadata, adopted,
    show (Json.obj members).put "kind" (.str r.kind) = .obj _ from rfl, Json.get_put_self]
  cases (Json.obj members).get "metadata" <;> dsimp only <;> rw [hput] <;> rfl

/-- What is created is the object of its kind, namespace and name. -/
theorem isAt_adopted (members : List (String × Json)) :
    isAt r ns (Object.name (.obj members)) (adopted r ns (.obj members)) = true := by
  have hkind : hasKind r.kind (adopted r ns (.obj members)) = true := by
    rw [hasKind_iff, adopted, Json.get_put_ne (by decide), Json.get_put_self]
  rw [isAt, hkind, namespaceName_adopted, name_adopted]
  simp

/-- Where no object is there yet, one is added, and it is found from then on. -/
theorem create_absent (members : List (String × Json))
    (h : s.objects.any (isAt r ns (Object.name (.obj members))) = false) :
    s.create r ns (.obj members) = (.ok (adopted r ns (.obj members)),
      { s with objects := s.objects ++ [adopted r ns (.obj members)] }) ∧
    ∀ s' : Store, s'.objects = s.objects ++ [adopted r ns (.obj members)] →
      s'.get r ns (Object.name (.obj members)) = .ok (adopted r ns (.obj members)) := by
  refine ⟨by rw [create, h]; rfl, fun s' hs' => ?_⟩
  have hnone : s.objects.find? (isAt r ns (Object.name (.obj members))) = none :=
    List.find?_eq_none.2 fun o ho => List.any_eq_false.1 h o ho
  rw [Store.get, hs', List.find?_append, hnone, Option.none_or, List.find?_cons,
    isAt_adopted members]

/-- Where an object is there already, none is added. -/
theorem create_present {object : Json} (h : s.objects.any (isAt r ns (Object.name object)) = true) :
    s.create r ns object = (.error (alreadyExists r (Object.name object)), s) := by
  rw [create, h]
  rfl

end

end Store

/-- A store shows of a pod what the pod did. -/
theorem PodParameters.Shown.adopted {p : PodParameters} {name : String} {pod : Json}
    (h : p.Shown name pod) (r : Resource) (ns : String) :
    p.Shown name (Store.adopted r ns pod) where
  named := Store.name_adopted.trans h.named
  label := by
    rw [Store.get_metadata_adopted (by decide) (by decide)]
    exact h.label
  container := by
    rw [Store.get_adopted (by decide) (by decide)]
    exact h.container

end ClusterScript
