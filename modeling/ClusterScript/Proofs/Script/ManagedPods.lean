import ClusterScript.Proofs.Cluster.Decoding
import ClusterScript.Proofs.Cluster.PodSelectors
import ClusterScript.Proofs.Script.Listing
import ClusterScript.Proofs.Script.ObjectCalls

/-!
# The pods that an object manages

An object that manages pods lists those of its namespace that have all of its
labels: the labels that its selector matches, or its own where it matches
none. Requirements of a selector that are no labels have no say in it.

* `Store.podsWith`: the pods with some labels, whatever finds them.
* `managed_listed`: what the method of an object lists.
* `requirements_ignored`: a pod that is listed though a requirement excludes it.
-/
namespace ClusterScript

/-- The pods of a namespace that have all of some labels, in the order of the store. -/
def Store.podsWith (s : Store) (ns : String) (labels : List (String × String)) : List Json :=
  s.objects.filter fun object =>
    hasKind Resource.pod.kind object && Object.namespaceName object = ns &&
      labels.all fun p => Selector.labelOf object p.1 = some p.2

namespace Script

open Selector (Word PlainText)

section

variable {labels : List (String × String)} {ns current : String} {s : Store}

theorem selected_labelsText (h : ∀ p ∈ labels, Word p.1 ∧ PlainText p.2) :
    Query.selected ⟨.named ns, none, ⟨Objects.labelsText labels, ""⟩⟩ .pod current s.objects =
      s.podsWith ns labels := by
  refine List.filter_congr fun object _ => ?_
  rw [Bool.eq_iff_iff, decide_eq_true_iff, Query.selects_iff, Objects.labelsText,
    Selector.holds_setTexts h]
  simp only [Store.hasKind, Scope.Admits, Query.matchesName, Option.all_none, and_true,
    Bool.and_eq_true, decide_eq_true_eq, List.all_eq_true]
  rfl

end

/-! ## The method of an object -/

section

variable {w : World} {session : Host} {s : Store} {r : Resource} {i : Instance}
variable {object typed : Json} {ns : String} {depth k : Nat} {b : BoundMethod} {method : String}

open Run

namespace Objects

theorem run_pods [Library] {cls : Nat} (hkeeps : Library.KeepsSelectors)
    (hhost : w.host = some session) (hstore : session.cluster = .store s)
    (hlist : w.registry.classId? Resource.pod.listClass = some cls) (hr : r.findsPods = true)
    (hname : Object.name object ≠ "") (hns : w.Locates object ns)
    (hread : Library.decode r (Object.untyped object) = .ok typed)
    (hne : Object.podLabels r object ≠ [])
    (hlabels : ∀ p ∈ Object.podLabels r object, Word p.1 ∧ PlainText p.2) :
    ∃ list w' q, (pods r object).run w = .ok (.instance list) w' ∧
      w'.registry.lookup list = .ok (.list q (s.podsWith ns (Object.podLabels r object))) := by
  let q : Query := ⟨.named ns, none, ⟨labelsText (Object.podLabels r object), ""⟩⟩
  obtain ⟨list, w', hnew, hlookup⟩ := newList_selected (q := q) hhost hstore hlist
  rw [selected_labelsText hlabels] at hlookup
  refine ⟨list, w', q, ?_, hlookup⟩
  rw [pods, run_bind_of_ok (run_addressOf hname hns), Object.podSelector_eq hkeeps hread hr]
  refine (run_lift_bind _ _).trans ?_
  rw [if_neg (by simpa using hne), podQuery_eq fun p hp => (hlabels p hp).1]
  exact hnew

/-- An object without any labels to go by is refused. -/
theorem pods_declines [Library] (hkeeps : Library.KeepsSelectors) (hr : r.findsPods = true)
    (hname : Object.name object ≠ "") (hns : w.Locates object ns)
    (hread : Library.decode r (Object.untyped object) = .ok typed)
    (hempty : Object.podLabels r object = []) :
    (pods r object).Declines w
      (.refused (.noPodSelector r.kind ns (Object.name object))) := by
  refine Declines.after (run_addressOf hname hns) ?_
  rw [Object.podSelector_eq hkeeps hread hr, hempty]
  rfl

end Objects

end

/-- The class of a kind that manages pods has a method for them. -/
theorem installed_pods {r : Resource} (hr : r.findsPods = true) :
    (Engine.installed default).registry.Defines r.kind ⟨"pods", .exact 0, .object r .pods⟩ := by
  have hall : ∀ r ∈ Resource.all, r.findsPods = true →
      (Engine.installed default).registry.Defines r.kind ⟨"pods", .exact 0, .object r .pods⟩ := by
    decide +kernel
  exact hall r (by cases r <;> decide) hr

/-- **An object lists the pods that have its labels.** At a moment of a session on a store, take
an object that has a name, of a kind that manages pods and decoded as such by a library that keeps
selectors, whose labels to go by are words with plain values. Its method gives a list of exactly
the pods in the object's namespace that have all of these labels, in the order of the store.
Without any labels to go by the method is refused, and nothing changes. -/
theorem managed_listed [Library] (hkeeps : Library.KeepsSelectors) {host : Host} {seeded : Store}
    (m : Moment { host with cluster := .store seeded }) {r : Resource} {i : Instance}
    {object typed : Json} {ns : String} (hr : r.findsPods = true)
    (hi : m.world.registry.lookup i = .ok (.object object))
    (hcls : m.world.registry.classId? r.kind = some i.cls) (hname : Object.name object ≠ "")
    (hns : m.world.Locates object ns) (hread : Library.decode r (Object.untyped object) = .ok typed)
    (hlabels : ∀ p ∈ Object.podLabels r object, Word p.1 ∧ PlainText p.2) :
    ∃ session store, m.world.host = some session ∧ session.cluster = .store store ∧
      (∃ (k : Nat) (b : BoundMethod), m.world.registry.bound[k]? = some b ∧ b.cls = i.cls ∧
        b.method = ⟨"pods", .exact 0, .object r .pods⟩) ∧
      ∀ (depth k : Nat) (b : BoundMethod) (method : String),
        m.world.registry.bound[k]? = some b → b.cls = i.cls →
        b.method = ⟨method, .exact 0, .object r .pods⟩ →
          (Object.podLabels r object ≠ [] → ∃ list w' q,
            (callAt (depth + 1) (.host (.method k)) [.instance i]).run m.world =
              .ok [.instance list] w' ∧
            w'.registry.lookup list =
              .ok (.list q (store.podsWith ns (Object.podLabels r object)))) ∧
          (Object.podLabels r object = [] →
            (callAt (depth + 1) (.host (.method k)) [.instance i]).Declines m.world
              (.refused (.noPodSelector r.kind ns (Object.name object)))) := by
  obtain ⟨session, store, hhost, hstore⟩ := m.stocked.store
  obtain ⟨listCls, hlist⟩ := m.listClass .pod
  refine ⟨session, store, hhost, hstore, (m.defines (installed_pods hr)).bound hcls, ?_⟩
  intro depth k b method hbound hb hmethod
  obtain ⟨hrun, hobject⟩ := Objects.run_callAt_object depth hi hbound hb hmethod
  rw [Objects.perform, Run.run_bind_of_ok hobject] at hrun
  refine ⟨fun hne => ?_, fun hempty => ?_⟩
  · obtain ⟨list, w', q, hpods, hlookup⟩ :=
      Objects.run_pods hkeeps hhost hstore hlist hr hname hns hread hne hlabels
    exact ⟨list, w', q, hrun.trans (Run.run_bind_of_ok hpods), hlookup⟩
  · exact hrun.trans (Objects.pods_declines hkeeps hr hname hns hread hempty).bind

/-! ## A selector with a requirement -/

/-- A selector that matches a label, and requires another to be one of some values. -/
def webSelector : Json :=
  .obj [("matchExpressions", .arr [.obj [("key", .str "tier"), ("operator", .str "In"),
      ("values", .arr [.str "front"])]]),
    ("matchLabels", .obj [("app", .str "web")])]

/-- The labels of a pod of a tier. -/
def tierLabels (tier : String) : Json :=
  .obj [("metadata", .obj [("labels", .obj [("app", .str "web"), ("tier", .str tier)])])]

/-- A deployment with the selector, a pod that it selects, and one that it does not. -/
def tierStore : Store :=
  ((Store.empty.seed "Deployment" "shop" "web"
    (.obj [("spec", .obj [("selector", webSelector)])])).seed "Pod" "shop" "web-1"
      (tierLabels "front")).seed "Pod" "shop" "web-2" (tierLabels "back")

/-- `deployment("web"):pods():names()`. -/
def askingNames : Chunk :=
  .expr (.method (.method (.call (.var "deployment") [.text "web"]) "pods" []) "names" [])

/-- The sequence that a chunk gives. -/
def sequenceOf : Except Fault (List Value) × Session → Option (List Value)
  | (.ok [.table id], s) => some (s.world.tables[id]?.getD .empty).sequence
  | _ => none

open Library.Standard

/-- A pod is listed though the selector of the deployment excludes its tier. -/
theorem requirements_ignored :
    sequenceOf ((Session.new (.store tierStore) "shop" .native default ⟨[]⟩ []).evaluate
        askingNames) = some [.text "web-1", .text "web-2"] ∧
      tierStore.objects.map (fun o => (Object.name o, Selector.labelOf o "tier")) =
        [("web", none), ("web-1", some "front"), ("web-2", some "back")] := by
  constructor <;> decide +kernel

/-- The deployment as the store has it. -/
def webDeployment : Json := (tierStore.objects.head?).getD .null

/-- A session in the namespace of the deployment. -/
def tierHost : Host := { (default : Host) with currentNamespace := "shop" }

theorem managed_listed_web :
    ∃ (m : Moment { tierHost with cluster := .store tierStore }) (i list : Instance) (k : Nat)
      (w' : World) (q : Query) (items : List Json),
      m.world.registry.lookup i = .ok (.object webDeployment) ∧
      (callAt 1 (.host (.method k)) [.instance i]).run m.world = .ok [.instance list] w' ∧
      w'.registry.lookup list = .ok (.list q items) ∧
      items.map Object.name = ["web-1", "web-2"] := by
  obtain ⟨b, -, -, hfirst⟩ := (Moment.first { tierHost with cluster := .store tierStore }).defines
    (installed_pods (r := .deployment) rfl)
  obtain ⟨m, i, hhost, hcls, hi⟩ := (Moment.first _).exists_object hfirst webDeployment
  rw [Moment.first_host] at hhost
  have hdecoded : (Library.decode .deployment (Object.untyped webDeployment)).toBool = true := by
    decide +kernel
  obtain ⟨typed, hread⟩ :
      ∃ typed, Library.decode .deployment (Object.untyped webDeployment) = .ok typed := by
    cases h : Library.decode .deployment (Object.untyped webDeployment) with
    | ok typed => exact ⟨typed, rfl⟩
    | error e =>
      rw [h] at hdecoded
      cases hdecoded
  have hlabels : Object.podLabels .deployment webDeployment = [("app", "web")] := by
    decide +kernel
  obtain ⟨session, store, hsession, hstore, ⟨k, b, hbound, hb, hmethod⟩, hlisted⟩ :=
    managed_listed keepsSelectors m (r := .deployment) rfl hi hcls (by decide +kernel)
      (.own (by decide +kernel)) hread (by rw [hlabels]; decide)
  cases hhost.symm.trans hsession
  cases hstore
  obtain ⟨list, w', q, hrun, hlookup⟩ := (hlisted 0 k b "pods" hbound hb hmethod).1
    (by rw [hlabels]; decide)
  refine ⟨m, i, list, k, w', q, _, hi, hrun, hlookup, ?_⟩
  decide +kernel

end Script

end ClusterScript
