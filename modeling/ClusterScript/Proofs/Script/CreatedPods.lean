import ClusterScript.Cluster.Decoding
import ClusterScript.Proofs.Script.Listing
import ClusterScript.Proofs.Script.ObjectCalls
import ClusterScript.Proofs.Script.ParameterTables
import ClusterScript.Proofs.Selector.LabelMatching

/-!
# Pods that are made, created and found again

A pod is made from a table of parameters. On a store it can be created once;
from then on it is found by its namespace and name, and by the label that
carries its name, as the parameters describe it. Where the store has such a
pod already, nothing happens.

* `PodParameters.DescribedBy`: the parameters that a table gives.
* `makePod_described`: what is made of a table.
* `World.ShowsPod`: a pod that calls find.
* `created_found`: a pod that was created is found.
-/
namespace ClusterScript

open Script

/-- A namespace with a slash is the glob of all that is in it. -/
theorem Glob.parse?_namespace {ns : String} (hns : Name.valid ns.toList = true) :
    Glob.parse? (ns ++ "/") = some ⟨.named ns, none⟩ := by
  obtain ⟨-, hstar, hslash⟩ := Name.proper_of_valid hns
  have hsplit : Text.splitOnceChars ['/'] (ns ++ "/").toList = some (ns.toList, []) := by
    rw [String.toList_append]
    exact Text.splitOnceChars_append hslash
  rw [Glob.parse?, hsplit]
  simp [Glob.scope?, hstar, hns, Glob.nameFilter?]

/-! ## Parameters of tables -/

/-- Parameters of a pod that are those of a table: texts, scalars in their string forms, and
nothing where the table has nothing. -/
structure PodParameters.DescribedBy (p : PodParameters) (tables : Array Table) (t : Table) :
    Prop where
  image : Entries.Tells t.entries "image" (fun v => v.hostText = .ok (some p.image)) False
  name : Entries.Tells t.entries "name"
    (fun v => ∃ s, v.hostText = .ok (some s) ∧ p.name = some s) (p.name = none)
  namespaceName : Entries.Tells t.entries "namespace"
    (fun v => ∃ s, v.hostText = .ok (some s) ∧ p.namespaceName = some s) (p.namespaceName = none)
  labels : Entries.Tells t.entries "labels"
    (fun v => ∃ id members, v = .table id ∧
      Entries.Spells (tables[id]?.getD .empty).entries members ∧ p.labels = some members)
    (p.labels = none)
  env : Entries.Tells t.entries "env"
    (fun v => ∃ id members, v = .table id ∧
      Entries.Spells (tables[id]?.getD .empty).entries members ∧ p.env = some members)
    (p.env = none)
  command : Entries.Tells t.entries "command"
    (fun v => ∃ id items, v = .table id ∧ (tables[id]?.getD .empty).sequence.map scalarText =
      items.map (fun s => .ok (some s)) ∧ p.command = some items)
    (p.command = none)

namespace PodParameters

/-- The namespace where a pod is created in a session that stands in a namespace. -/
def home (p : PodParameters) (current : String) : String :=
  if p.namespaceName.getD "" = "" then defaultNamespace current else p.namespaceName.getD ""

variable {p : PodParameters} {tables : Array Table} {t : Table}

/-- No two labels have one key. -/
theorem DescribedBy.distinct (h : p.DescribedBy tables t) :
    (p.labels.getD []).Pairwise fun a b => a.1 ≠ b.1 := by
  rcases h.labels with ⟨v, -, id, members, -, hspells, hlabels⟩ | ⟨-, hnone⟩
  · rw [hlabels]
    exact hspells.ascending.imp String.ne_of_lt
  · rw [hnone]
    exact .nil

/-- A table describes one pod only. -/
theorem DescribedBy.unique {p' : PodParameters} (h : p.DescribedBy tables t)
    (h' : p'.DescribedBy tables t) (hdistinct : t.Distinct) (htextual : t.Textual)
    (hnested : ∀ e ∈ t.entries, ∀ id, e.2 = .table id →
      (tables[id]?.getD .empty).Distinct ∧ (tables[id]?.getD .empty).Textual) : p = p' := by
  have hkeys : ∀ e ∈ t.entries, e.1.IsTextual := fun e he => (htextual e he).1
  have hmap : ∀ {v : Value} {id id' : Nat} {members members' : List (String × String)} {key},
      (Value.text key, v) ∈ t.entries → v = .table id → v = .table id' →
      Entries.Spells (tables[id]?.getD .empty).entries members →
      Entries.Spells (tables[id']?.getD .empty).entries members' → members = members' := by
    intro v id id' members members' key hmem hid hid' hspells hspells'
    cases hid.symm.trans hid'
    obtain ⟨hdistinct, htextual⟩ := hnested _ hmem id hid
    exact hspells.unique hspells' (fun e he => (htextual e he).1) hdistinct
  have himage : p.image = p'.image := by
    obtain ⟨v, -, hv, hv'⟩ | ⟨hnone, -⟩ := h.image.agree h'.image hkeys hdistinct
    · exact Option.some.inj (Except.ok.inj (hv.symm.trans hv'))
    · exact hnone.elim
  have hname : p.name = p'.name := by
    obtain ⟨v, -, ⟨s, hs, hp⟩, s', hs', hp'⟩ | ⟨hp, hp'⟩ :=
      h.name.agree h'.name hkeys hdistinct
    · rw [hp, hp', Except.ok.inj (hs.symm.trans hs')]
    · rw [hp, hp']
  have hnamespace : p.namespaceName = p'.namespaceName := by
    obtain ⟨v, -, ⟨s, hs, hp⟩, s', hs', hp'⟩ | ⟨hp, hp'⟩ :=
      h.namespaceName.agree h'.namespaceName hkeys hdistinct
    · rw [hp, hp', Except.ok.inj (hs.symm.trans hs')]
    · rw [hp, hp']
  have hlabels : p.labels = p'.labels := by
    obtain ⟨v, hmem, ⟨id, members, hid, hm, hp⟩, id', members', hid', hm', hp'⟩ | ⟨hp, hp'⟩ :=
      h.labels.agree h'.labels hkeys hdistinct
    · rw [hp, hp', hmap hmem hid hid' hm hm']
    · rw [hp, hp']
  have henv : p.env = p'.env := by
    obtain ⟨v, hmem, ⟨id, members, hid, hm, hp⟩, id', members', hid', hm', hp'⟩ | ⟨hp, hp'⟩ :=
      h.env.agree h'.env hkeys hdistinct
    · rw [hp, hp', hmap hmem hid hid' hm hm']
    · rw [hp, hp']
  have hcommand : p.command = p'.command := by
    obtain ⟨v, -, ⟨id, items, hid, hm, hp⟩, id', items', hid', hm', hp'⟩ | ⟨hp, hp'⟩ :=
      h.command.agree h'.command hkeys hdistinct
    · cases hid.symm.trans hid'
      have hinj : Function.Injective
          fun s : String => (.ok (some s) : Except Fault (Option String)) :=
        fun a b hab => Option.some.inj (Except.ok.inj hab)
      rw [hp, hp', List.map_injective_iff.2 hinj (hm.symm.trans hm')]
    · rw [hp, hp']
  cases p
  cases p'
  simp_all

/-- A pod lies where its parameters say. -/
theorem locates_home {w : World} {session : Host} {pod : Json}
    (hpod : Object.namespaceName pod = p.namespaceName.getD "") (hhost : w.host = some session) :
    w.Locates pod (p.home session.currentNamespace) := by
  unfold home
  rw [← hpod]
  split
  · next hempty => exact .session hhost hempty
  · next hown => exact .own hown

end PodParameters

namespace Script

open Run

/-- The parameters of a pod that were read. -/
def podParameters (params : Params) : PodParameters :=
  ⟨(params.string? "image").getD "", params.string? "name", params.string? "namespace",
    params.map? "labels", params.map? "env", params.list? "command"⟩

theorem podParameters_describedBy {tables : Array Table} {t : Table} {params : Params}
    (h : podSchema.parse tables t = .ok params) :
    (podParameters params).DescribedBy tables t where
  image := by
    have hkey : podSchema.keys.find? (fun p => p.name = "image") =
      some ⟨"image", .string, true⟩ := rfl
    refine (ParamSchema.string?_tells h hkey).imp ?_ fun hnone => by cases hnone.2
    rintro v ⟨s, hs, himage⟩
    rwa [podParameters, himage]
  name := (ParamSchema.string?_tells h rfl).imp (fun _ => id) And.left
  namespaceName := (ParamSchema.string?_tells h rfl).imp (fun _ => id) And.left
  labels := (ParamSchema.map?_tells h rfl).imp (fun _ => id) And.left
  env := (ParamSchema.map?_tells h rfl).imp (fun _ => id) And.left
  command := (ParamSchema.list?_tells h rfl).imp (fun _ => id) And.left

/-! ## Making a pod -/

/-- Where a pod is made, it is made of the parameters of a table, and nothing else happens. -/
theorem makePod_described (args : List Value) (w : World) :
    (makePod args).Ends w (fun v w' => ∃ (id : Nat) (p : PodParameters) (pod : Json) (i : Instance),
      args = [.table id] ∧ p.DescribedBy w.tables (w.tables[id]?.getD .empty) ∧ p.pod = .ok pod ∧
      v = .instance i ∧ w.Adds Resource.pod.kind (.object pod) i w') (· = w) := by
  unfold makePod
  split
  · next id =>
    refine .bind_of_ok run_get (.lift_bind (fun params hparams => ?_) rfl)
    refine .liftRefusal_bind (fun pod hpod => ?_) rfl
    exact .bind (newInstanceOf_ends _ _ w) fun i _ hadds =>
      .pure ⟨id, podParameters params, pod, i, rfl, podParameters_describedBy hparams, hpod, rfl,
        hadds⟩
  · exact .refuse rfl

/-! ## Finding a pod -/

/-- Calls find a pod by its namespace and name, and by the label that carries its name, whatever
the script does on its own before. -/
structure World.ShowsPod [Library] (w : World) (ns name : String) (pod : Json) : Prop where
  byName : ∀ w₁ depth, Step w .own w₁ → ∃ i w',
    (callAt (depth + 1) (.host (.object .pod)) [.text (ns ++ "/" ++ name)]).run w₁ =
      .ok [.instance i] w' ∧ w'.registry.lookup i = .ok (.object pod)
  byLabel : ∀ w₁ depth given, Step w .own w₁ →
    (w₁.tables[given]?.getD .empty).entries = [(.text "labels", .text ("name=" ++ name))] →
      ∃ i w' q items,
        (callAt (depth + 1) (.host (.list .pod)) [.text (ns ++ "/"), .table given]).run w₁ =
          .ok [.instance i] w' ∧ w'.registry.lookup i = .ok (.list q items) ∧ pod ∈ items

section

variable {w : World} {session : Host} {s : Store} {ns name : String} {pod : Json}

/-- A table with a label selector, behind the glob of a namespace. -/
theorem run_queryOf_labels [Library] {given : Nat} {text : String}
    (hns : Name.valid ns.toList = true)
    (hgiven : (w.tables[given]?.getD .empty).entries = [(.text "labels", .text text)])
    (call : Caller) : (queryOf call [.text (ns ++ "/"), .table given]).run w =
      .ok ⟨.named ns, none, ⟨text, ""⟩⟩ w := by
  have hlength : (w.tables[given]?.getD .empty).length = 0 := by
    refine Table.length_named fun e he => ?_
    rw [hgiven, List.mem_singleton] at he
    exact ⟨"labels", congrArg Prod.fst he⟩
  have hparse : querySchema.parse w.tables (w.tables[given]?.getD .empty) =
      .ok [("labels", .string text)] := by
    rw [ParamSchema.parse, hgiven]
    rfl
  have hdecoded : queryArguments w.tables [.text (ns ++ "/"), .table given] =
      .ok [.glob (ns ++ "/"), .params (some (.literal text)) none] := by
    simp only [queryArguments, queryArgument, hlength, hparse]
    rfl
  rw [queryOf, run_bind_of_ok run_get, hdecoded]
  refine (run_lift_bind _ _).trans ?_
  have hread : Glob.read (ns ++ "/") = .ok ⟨.named ns, none⟩ := by
    rw [Glob.read, Glob.parse?_namespace hns]
  simp only [Query.combine, Query.addArguments, Query.addArgument, hread]
  rfl

/-- A pod in the store is found, if it is the one of its namespace and name, and has its name as
a label. -/
theorem showsPod [Library] {cls listCls : Nat} (hhost : w.host = some session)
    (hstore : session.cluster = .store s) (hcls : w.registry.classId? Resource.pod.kind = some cls)
    (hlist : w.registry.classId? Resource.pod.listClass = some listCls)
    (hns : Name.valid ns.toList = true) (hname : Selector.Word name)
    (hget : s.get .pod ns name = .ok pod)
    (hlabel : ((pod.get "metadata").get "labels").get "name" = .str name) :
    w.ShowsPod ns name pod := by
  have hfound : s.objects.find? (Store.isAt .pod ns name) = some pod := by
    unfold Store.get at hget
    split at hget
    · next hfind => cases hget; exact hfind
    · cases hget
  obtain ⟨⟨hkind, hnamespace⟩, -⟩ : (Store.hasKind Resource.pod.kind pod = true ∧
      Object.namespaceName pod = ns) ∧ Object.name pod = name := by
    simpa [Store.isAt] using List.find?_some hfound
  constructor
  · rintro w₁ depth (⟨hregistry, hhost₁⟩ | _)
    rw [← hregistry] at hcls
    exact Objects.run_find_named (hhost₁.trans hhost) hstore hcls hns hget
  · rintro w₁ depth given (⟨hregistry, hhost₁⟩ | _) hgiven
    rw [← hregistry] at hlist
    let q : Query := ⟨.named ns, none, ⟨"name=" ++ name, ""⟩⟩
    obtain ⟨i, w', hrun, hi⟩ := newList_selected (q := q) (hhost₁.trans hhost) hstore hlist
    refine ⟨i, w', q, _, ?_, hi, List.mem_filter.2 ⟨?_, decide_eq_true ?_⟩⟩
    · exact (run_bind_of_ok (run_queryOf_labels hns hgiven _)).trans (run_bind_of_ok hrun)
    · exact List.mem_of_find?_eq_some hfound
    · have hlabels := (Selector.holds_equal (by decide : Selector.Word "name") hname
        ((pod.get "metadata").get "labels")).2 (by rw [hlabel]; rfl)
      exact ⟨hkind, hnamespace, hlabels, by simp [q]⟩

end

/-- The class of pods has a method that creates them. -/
theorem installed_create : (Engine.installed default).registry.Defines Resource.pod.kind
    ⟨"create", .exact 0, .object .pod .create⟩ := by
  decide +kernel

/-- **A pod that was created is found again.** Where a call makes a pod, at a moment of a session
on a store, its parameters are those of the table that the call is given; its name is among them,
or it is part of the image. Say the name is a word and the namespace a name. If the store has no
such pod, then creating the pod succeeds; the store has one more object, which shows the
parameters, and calls find it by namespace and name, and by the label that carries its name. If
the store has such a pod, then creating it is an error of the cluster, and nothing at all
changes. -/
theorem created_found [Library] {host : Host} {seeded : Store}
    (m : Moment { host with cluster := .store seeded }) {depth : Nat} {args results : List Value}
    {w₁ : World} (hmade : (callAt (depth + 1) (.host .makePod) args).run m.world = .ok results w₁) :
    ∃ (session : Host) (store : Store) (id : Nat) (p : PodParameters) (name : String)
      (i : Instance), m.world.host = some session ∧ session.cluster = .store store ∧
      args = [.table id] ∧ p.DescribedBy m.world.tables (m.world.tables[id]?.getD .empty) ∧
      (p.name = some name ∨ p.name = none ∧ PodParameters.Names p.image name) ∧
      results = [.instance i] ∧
      (∃ (k : Nat) (b : BoundMethod), w₁.registry.bound[k]? = some b ∧ b.cls = i.cls ∧
        b.method = ⟨"create", .exact 0, .object .pod .create⟩) ∧
      ∀ ns, ns = p.home session.currentNamespace → Name.valid ns.toList = true →
        Selector.Word name → ∀ (w₂ : World) (depth k : Nat) (b : BoundMethod) (method : String),
          Step w₁ .own w₂ → w₂.registry.bound[k]? = some b → b.cls = i.cls →
          b.method = ⟨method, .exact 0, .object .pod .create⟩ →
            (store.objects.any (Store.isAt .pod ns name) = false →
              ∃ pod, p.Shown name pod ∧ Object.namespaceName pod = ns ∧
                (callAt (depth + 1) (.host (.method k)) [.instance i]).run w₂ =
                  .ok [.instance i] (w₂.created session store i pod) ∧
                (w₂.created session store i pod).ShowsPod ns name pod) ∧
            (store.objects.any (Store.isAt .pod ns name) = true →
              (callAt (depth + 1) (.host (.method k)) [.instance i]).Declines w₂
                (Store.alreadyExists .pod name)) := by
  obtain ⟨session, store, hhost, hstore⟩ := m.stocked.store
  obtain ⟨v, w, hmake, hresults⟩ := bind_ok hmade
  cases hresults
  obtain ⟨id, p, pod, i, rfl, hdescribed, hpod, rfl, hadds⟩ :=
    (makePod_described args m.world).ok _ _ hmake
  obtain ⟨hshown, hnamespace, members, rfl⟩ := PodParameters.shown_pod hpod hdescribed.distinct
  have hi : w₁.registry.lookup i = .ok (.object (.obj members)) := hadds.lookup.2 (.inr ⟨rfl, rfl⟩)
  have hcls : w₁.registry.classId? Resource.pod.kind = some i.cls :=
    (hadds.carries.classId? _).trans hadds.cls
  have hhost₁ : w₁.host = some session := by rw [hadds.world]; exact hhost
  obtain ⟨listCls, hlist⟩ := m.listClass .pod
  rw [← hadds.carries.classId?] at hlist
  refine ⟨session, store, id, p, p.name.getD (PodParameters.nameFromImage p.image), i, hhost,
    hstore, rfl, hdescribed, ?_, rfl, ?_, ?_⟩
  · cases p.name with
    | some name => exact .inl rfl
    | none => exact .inr ⟨rfl, PodParameters.names_nameFromImage p.image⟩
  · exact (hadds.carries.defines (m.defines installed_create)).bound hcls
  generalize p.name.getD (PodParameters.nameFromImage p.image) = name at hshown
  rintro ns rfl hns hname w₂ depth k b method (⟨hregistry, hhost₂⟩ | _) hbound hb hmethod
  rw [← hregistry] at hi hcls hlist
  rw [← hhost₂] at hhost₁
  have hnamed : Object.name (.obj members) ≠ "" := by
    rw [hshown.named]
    exact hname.1
  have hlocates := p.locates_home hnamespace hhost₁
  rw [← hshown.named]
  refine ⟨fun habsent => ?_, fun hpresent => ?_⟩
  · have hcreate := Objects.run_create_absent depth hhost₁ hstore hi hbound hb hmethod
      hnamed hlocates habsent
    let pod := Store.adopted .pod (p.home session.currentNamespace) (.obj members)
    let kept : Store := { store with objects := store.objects ++ [pod] }
    have hget : kept.get .pod (p.home session.currentNamespace) (Object.name (.obj members)) =
        .ok pod := (Store.create_absent members habsent).2 kept rfl
    have hshown' : p.Shown (Object.name (.obj members)) pod := by
      rw [hshown.named]
      exact hshown.adopted .pod _
    refine ⟨pod, hshown', Store.namespaceName_adopted members, hcreate, ?_⟩
    refine showsPod rfl rfl hcls hlist hns (by rwa [hshown.named]) hget ?_
    rw [hshown'.label, if_pos rfl]
  · exact Objects.create_declines hhost₁ hstore hi hbound hb hmethod hnamed hlocates hpresent

/-- A session in a namespace of its own, on an empty store. -/
def shop : Host := { (default : Host) with currentNamespace := "shop" }

/-- `{tier = "db", replicas = 2}` -/
def webLabels : Table := ⟨[(.text "tier", .text "db"), (.text "replicas", .ofNat 2)], false, 0⟩

/-- `{PORT = 8080, DEBUG = true}` -/
def webEnv : Table := ⟨[(.text "PORT", .ofNat 8080), (.text "DEBUG", .bool true)], false, 0⟩

/-- `{"run", 7, true}` -/
def webCommand : Table := .ofList [.text "run", .ofNat 7, .bool true]

/-- The parameters of a pod with such labels, variables and command, which are three tables one
behind the other. -/
def webTable (labels : Nat) : Table :=
  ⟨[(.text "image", .text "nginx"), (.text "name", .text "web"), (.text "labels", .table labels),
    (.text "env", .table (labels + 1)), (.text "command", .table (labels + 2))], false, 0⟩

def webTables (labels : Nat) : Array Table := #[webLabels, webEnv, webCommand, webTable labels]

/-- What the tables say. -/
def webParameters : PodParameters :=
  ⟨"nginx", some "web", none, some [("replicas", "2"), ("tier", "db")],
    some [("DEBUG", "true"), ("PORT", "8080")], some ["run", "7", "true"]⟩

section

open ParamSchema

variable {tables heap : Array Table}

theorem getD_webTables {id k : Nat} (h : id = tables.size + k) :
    ((tables ++ webTables tables.size)[id]?).getD .empty =
      ((webTables tables.size)[k]?).getD .empty := by
  rw [h, Array.getElem?_append_right (by omega), Nat.add_sub_cancel_left]

/-- The parameters are read as what the tables say. -/
theorem parse_webTables (hheap : heap = tables ++ webTables tables.size) :
    ∃ params, podSchema.parse heap (heap[tables.size + 3]?.getD .empty) = .ok params ∧
      podParameters params = webParameters := by
  subst hheap
  have hlabels : podSchema.parseEntry (tables ++ webTables tables.size) (.text "labels")
      (.table tables.size) = .ok ("labels", .map [("replicas", "2"), ("tier", "db")]) :=
    parseEntry_of_parseValue rfl (by rw [parseValue, getD_webTables (Nat.add_zero _).symm]; rfl)
  have henv : podSchema.parseEntry (tables ++ webTables tables.size) (.text "env")
      (.table (tables.size + 1)) = .ok ("env", .map [("DEBUG", "true"), ("PORT", "8080")]) :=
    parseEntry_of_parseValue rfl (by rw [parseValue, getD_webTables (k := 1) rfl]; rfl)
  have hcommand : podSchema.parseEntry (tables ++ webTables tables.size) (.text "command")
      (.table (tables.size + 2)) = .ok ("command", .list ["run", "7", "true"]) :=
    parseEntry_of_parseValue rfl (by rw [parseValue, getD_webTables (k := 2) rfl]; rfl)
  have himage : podSchema.parseEntry (tables ++ webTables tables.size) (.text "image")
      (.text "nginx") = .ok ("image", .string "nginx") := rfl
  have hname : podSchema.parseEntry (tables ++ webTables tables.size) (.text "name")
      (.text "web") = .ok ("name", .string "web") := rfl
  refine ⟨[("command", .list ["run", "7", "true"]), ("env", .map [("DEBUG", "true"),
    ("PORT", "8080")]), ("image", .string "nginx"), ("labels", .map [("replicas", "2"),
    ("tier", "db")]), ("name", .string "web")], ?_, rfl⟩
  have htable : (webTables tables.size)[3]?.getD Table.empty = webTable tables.size := rfl
  rw [getD_webTables (k := 3) rfl, htable, parse]
  simp only [webTable, parseEntries, himage, hname, hlabels, henv, hcommand]
  rfl

theorem run_makePod_web [Library] {w : World}
    (hheap : w.tables = tables ++ webTables tables.size) {cls : Nat}
    (hcls : w.registry.classId? Resource.pod.kind = some cls) : ∃ i w',
    (callAt 1 (.host .makePod) [.table (tables.size + 3)]).run w = .ok [.instance i] w' := by
  obtain ⟨params, hparse, hparams⟩ := parse_webTables hheap
  obtain ⟨pod, hpod⟩ : ∃ pod, webParameters.pod = .ok pod := ⟨_, rfl⟩
  obtain ⟨i, w', hnew, -⟩ := run_newObject hcls pod
  have hlift : (Run.liftRefusal (podParameters params).pod).run w = .ok pod w := by
    rw [hparams, hpod]
    rfl
  have hmake : (makePod [.table (tables.size + 3)]).run w = .ok (.instance i) w' := by
    refine (run_bind_of_ok run_get).trans ?_
    rw [hparse]
    refine (run_lift_bind _ _).trans ?_
    exact (run_bind_of_ok hlift).trans hnew
  exact ⟨i, w', run_bind_of_ok hmake⟩

/-- The tables tell of this pod, and of no other. -/
theorem eq_webParameters {p : PodParameters} (hheap : heap = tables ++ webTables tables.size)
    (h : p.DescribedBy heap (heap[tables.size + 3]?.getD .empty)) : p = webParameters := by
  obtain ⟨params, hparse, hparams⟩ := parse_webTables hheap
  have hweb := podParameters_describedBy hparse
  rw [hparams] at hweb
  subst hheap
  rw [getD_webTables (k := 3) rfl] at h hweb
  have hkeys : (["image", "name", "labels", "env", "command"].map Value.text).Nodup := by decide
  have hcases : ∀ e ∈ (webTable tables.size).entries, e.1.IsTextual ∧ e.2.IsTextual ∧
      ∀ id, e.2 = .table id → ∃ t, ((tables ++ webTables tables.size)[id]?).getD .empty = t ∧
        t ∈ [webLabels, webEnv, webCommand] := by
    intro e he
    simp only [webTable, List.mem_cons, List.not_mem_nil, or_false] at he
    rcases he with rfl | rfl | rfl | rfl | rfl <;> refine ⟨trivial, trivial, ?_⟩ <;>
      rintro id ⟨⟩
    · exact ⟨_, getD_webTables (Nat.add_zero _).symm, .head _⟩
    · exact ⟨_, getD_webTables (k := 1) rfl, .tail _ (.head _)⟩
    · exact ⟨_, getD_webTables (k := 2) rfl, .tail _ (.tail _ (.head _))⟩
  have hnested : ∀ t ∈ [webLabels, webEnv, webCommand], t.Distinct ∧ t.Textual := by
    unfold Table.Distinct
    decide
  refine h.unique hweb hkeys (fun e he => ?_) fun e he id hid => ?_
  · exact ⟨(hcases e he).1, (hcases e he).2.1⟩
  · obtain ⟨t, ht, hmem⟩ := (hcases e he).2.2 id hid
    exact ht ▸ hnested t hmem

end

open Library.Standard

/-- A pod with labels, variables and a command is created and found, the number and the truth
values among them in their string forms. -/
theorem created_found_web : ∃ (m : Moment { shop with cluster := .store Store.empty })
    (given : Nat) (i : Instance) (w₁ : World) (session : Host) (store : Store) (k : Nat)
    (pod : Json), webParameters.DescribedBy m.world.tables (m.world.tables[given]?.getD .empty) ∧
      (callAt 1 (.host .makePod) [.table given]).run m.world = .ok [.instance i] w₁ ∧
      (callAt 1 (.host (.method k)) [.instance i]).run w₁ =
        .ok [.instance i] (w₁.created session store i pod) ∧
      webParameters.Shown "web" pod ∧
      (w₁.created session store i pod).ShowsPod "shop" "web" pod := by
  obtain ⟨first, hfirst⟩ : ∃ first : Moment { shop with cluster := .store Store.empty },
      first.world.host = some { shop with cluster := .store Store.empty } :=
    ⟨Moment.first _, Moment.first_host _⟩
  obtain ⟨m, hm⟩ := first.exists_tables (webTables first.world.tables.size)
  have hheap : m.world.tables = first.world.tables ++ webTables first.world.tables.size := by
    rw [hm]
  have hhost' : m.world.host = some { shop with cluster := .store Store.empty } := by
    rw [hm]
    exact hfirst
  obtain ⟨b, -, -, hcls⟩ := m.defines installed_create
  obtain ⟨i, w₁, hmade⟩ := run_makePod_web hheap hcls
  obtain ⟨session, store, id, p, name, i', hhost, hstore, harg, hp, hname, hresult,
    ⟨k, b, hbound, hb, hmethod⟩, hfound⟩ := created_found m hmade
  cases harg
  cases hresult
  obtain rfl := eq_webParameters hheap hp
  cases hhost'.symm.trans hhost
  cases hstore
  obtain rfl : "web" = name := by simpa [webParameters] using hname
  have hhome : "shop" = webParameters.home shop.currentNamespace := by
    simp [webParameters, PodParameters.home, shop, defaultNamespace, allNamespaces]
  obtain ⟨pod, hshown, -, hcreate, hshows⟩ := (hfound "shop" hhome (by decide) (by decide) w₁ 0 k b
    "create" (.own rfl rfl) hbound hb hmethod).1 rfl
  exact ⟨m, _, i, w₁, _, _, k, pod, hp, hmade, hcreate, hshown, hshows⟩

end Script

end ClusterScript
