import ClusterScript.Proofs.Script.Containers
import Mathlib.Logic.Relation

/-!
# The branches of a conversion

The converter opens a branch for each container that it comes to, and drops
none. The branch that values go into is told by its index, which every walk
of a container changes, and a key stays pending while the part at that key is
walked, however much is opened in between.

* `Tracks`: the branches so far are those of the first containers of the tree.
* `walk_appends`: a walk appends the branches of the containers of its tree.
* `Visit.Enters`: the walk of a container comes to one of its parts.
* `conversion_recurses`: the whole conversion.
-/
namespace ClusterScript.Script.Converter

open Json (Container containers containers_container containers_scalar partContainers)

section

variable {α β : Type} {c c' : Converter} {w w' : World} {b : Branch} {j : Json} {v : Value}
  {shape : Shape}

/-! ## Steps that succeed -/

/-- A sequence that ends with a value has run through both parts. -/
theorem bind_ok {x : Step α} {f : α → Step β} {r : β × Converter}
    (h : ((x >>= f).run c).run w = .ok r w') :
    ∃ a c₁ w₁, (x.run c).run w = .ok (a, c₁) w₁ ∧ ((f a).run c₁).run w₁ = .ok r w' := by
  rw [StateT.run_bind] at h
  obtain ⟨⟨a, c₁⟩, w₁, hx, hf⟩ := Run.bind_ok h
  exact ⟨a, c₁, w₁, hx, hf⟩

theorem currentBranch_ok (h : (currentBranch.run c).run w = .ok (b, c') w') :
    c.branches[c.current]? = some b ∧ c' = c ∧ w' = w := by
  rw [currentBranch] at h
  obtain ⟨_, _, _, hget, hbranch⟩ := bind_ok h
  cases hget
  cases hb : c.branches[c.current]? with
  | some b' =>
    rw [hb] at hbranch
    cases hbranch
    exact ⟨rfl, rfl, rfl⟩
  | none =>
    rw [hb] at hbranch
    cases hbranch

/-- Only what the current branch waits for has changed. -/
structure Rekeyed (c c' : Converter) : Prop where
  current : c'.current = c.current
  atRoot : c'.atRoot = c.atRoot
  size : c'.branches.size = c.branches.size
  branch : ∀ (i : Nat) (b' : Branch), c'.branches[i]? = some b' →
    ∃ b key, c.branches[i]? = some b ∧ b' = { b with pendingKey := key }

theorem rekeyed_set (h : c.branches[c.current]? = some b) (key : Option Value) :
    Rekeyed c { c with
      branches := c.branches.setIfInBounds c.current { b with pendingKey := key } } where
  current := rfl
  atRoot := rfl
  size := by simp
  branch i b' hb' := by
    by_cases hi : c.current = i
    · subst hi
      simp only [Array.getElem?_setIfInBounds_self_of_lt (index_lt h), Option.some.injEq] at hb'
      exact ⟨b, key, h, hb'.symm⟩
    · simp only [Array.getElem?_setIfInBounds_ne hi] at hb'
      exact ⟨b', b'.pendingKey, hb', rfl⟩

theorem expectKey_ok {key : Value} (h : ((expectKey key).run c).run w = .ok ((), c') w') :
    Rekeyed c c' ∧ w' = w := by
  obtain ⟨b, _, _, hbranch, -⟩ := bind_ok h
  obtain ⟨hb, -, -⟩ := currentBranch_ok hbranch
  rw [run_expectKey hb] at h
  cases h
  exact ⟨rekeyed_set hb _, rfl⟩

theorem store_ok (h : ((store v).run c).run w = .ok ((), c') w') :
    Rekeyed c c' ∧ w'.tables.size = w.tables.size := by
  obtain ⟨b, c₁, w₁, hbranch, hset⟩ := bind_ok h
  obtain ⟨hb, rfl, rfl⟩ := currentBranch_ok hbranch
  cases hkey : b.pendingKey with
  | none =>
    rw [hkey] at hset
    cases hset
  | some key =>
    rw [run_store hb hkey] at h
    cases h
    exact ⟨rekeyed_set hb none, by simp⟩

/-- Going back from a branch changes which one is current. -/
theorem flipBranch_ok (h : (flipBranch.run c).run w = .ok (v, c') w') :
    ∃ b, c.branches[c.current]? = some b ∧ w' = w ∧
      c' = { c with current := b.parent.getD c.current } := by
  obtain ⟨b, c₁, w₁, hbranch, hback⟩ := bind_ok h
  obtain ⟨hb, rfl, rfl⟩ := currentBranch_ok hbranch
  cases hback
  exact ⟨b, hb, rfl, rfl⟩

/-- A container is walked by storing its parts in a branch of its own. -/
theorem walk_container (h : j.shape? = some shape) : walk j = (do
    appendBranch shape
    storeAll j.parts
    flipBranch) := by
  cases j with
  | arr items =>
    cases h
    rw [walk, walkItems_eq_storeAll]
    rfl
  | obj members =>
    cases h
    rw [walk, walkMembers_eq_storeAll]
    rfl
  | _ => cases h

theorem walk_scalar (h : j.shape? = none) : walk j = (do
    modify fun c => { c with atRoot := false }
    return scalarValue (← get).mode j) := by
  cases j with
  | arr => cases h
  | obj => cases h
  | _ => rfl

theorem kept_of_walk (hroot : c.atRoot = true → c.current = c.branches.size)
    (h : ((walk j).run c).run w = .ok (v, c') w') : Kept c c' := by
  obtain ⟨_, _, hbuild, -⟩ := build_grows c.mode j w
  obtain ⟨_, hwalk, hkept⟩ := walk_builds j c _ _ _ hroot hbuild
  cases hwalk.symm.trans h
  exact hkept

/-! ## Branches and containers -/

/-- The branch of the place that encloses a place: one of those before, and none for the root. -/
def EnclosedBy (cs : List Container) (i : Nat) (place : List Nat) : Option Nat → Prop
  | none => place = []
  | some k => k < i ∧ ∃ outer n, cs[k]? = some outer ∧ place = outer.place ++ [n]

/-- The branches so far are those of the first containers of a tree, and the tables that were made
since the first one are theirs. -/
structure Tracks (cs : List Container) (first tables : Nat) (c : Converter) : Prop where
  tables : tables = first + c.branches.size
  branch : ∀ i b, c.branches[i]? = some b → ∃ l, cs[i]? = some l ∧ b.shape = l.shape ∧
    b.container = first + i ∧ EnclosedBy cs i l.place b.parent

variable {cs : List Container} {first tables : Nat}

theorem Tracks.rekeyed (h : Tracks cs first tables c) (hkey : Rekeyed c c') :
    Tracks cs first tables c' where
  tables := by rw [hkey.size, h.tables]
  branch i b' hb' := by
    obtain ⟨b, key, hb, rfl⟩ := hkey.branch i b' hb'
    exact h.branch i b hb

/-- A branch is opened for the next container. -/
theorem Tracks.append {l : Container} (h : Tracks cs first tables c)
    (hl : cs[c.branches.size]? = some l) (hshape : b.shape = l.shape)
    (hcontainer : b.container = tables)
    (hparent : EnclosedBy cs c.branches.size l.place b.parent) (current : Nat) (atRoot : Bool) :
    Tracks cs first (tables + 1)
      { c with branches := c.branches.push b, current := current, atRoot := atRoot } where
  tables := by
    have := h.tables
    simp only [Array.size_push]
    omega
  branch i b' hb' := by
    by_cases hi : i = c.branches.size
    · subst hi
      simp only [Array.getElem?_push_size, Option.some.injEq] at hb'
      subst hb'
      exact ⟨l, hl, hshape, hcontainer.trans h.tables, hparent⟩
    · simp only [Array.getElem?_push, hi, if_false] at hb'
      exact h.branch i b' hb'

/-- These containers are the next ones, from an index on. -/
def Ahead (cs : List Container) (i : Nat) (next : List Container) : Prop := next <+: cs.drop i

theorem Ahead.left {next rest : List Container} {i : Nat} (h : Ahead cs i (next ++ rest)) :
    Ahead cs i next := (List.prefix_append next rest).trans h

theorem Ahead.right {next rest : List Container} {i : Nat} (h : Ahead cs i (next ++ rest)) :
    Ahead cs (i + next.length) rest := by
  obtain ⟨after, hafter⟩ := h
  refine ⟨after, ?_⟩
  rw [← List.drop_drop, ← hafter, List.append_assoc, List.drop_left]

theorem Ahead.cons {l : Container} {rest : List Container} {i : Nat}
    (h : Ahead cs i (l :: rest)) : cs[i]? = some l ∧ Ahead cs (i + 1) rest := by
  obtain ⟨after, hafter⟩ := h
  constructor
  · rw [← Nat.add_zero i, ← List.getElem?_drop, ← hafter]
    rfl
  · refine ⟨after, ?_⟩
    rw [← List.drop_drop, ← hafter]
    rfl

/-- Where the containers of a tree are the next ones, a walk of it appends their branches. -/
def Appends (cs : List Container) (first : Nat) (j : Json) : Prop :=
  ∀ (place : List Nat) (c c' : Converter) (w w' : World) (v : Value),
    (c.atRoot = true → c.current = c.branches.size) →
    EnclosedBy cs c.branches.size place (if c.atRoot then none else some c.current) →
    Ahead cs c.branches.size (containers place j) →
    Tracks cs first w.tables.size c → ((walk j).run c).run w = .ok (v, c') w' →
      Tracks cs first w'.tables.size c' ∧
        c'.branches.size = c.branches.size + (containers place j).length

/-- The same for the parts of a container, which it encloses. -/
theorem storeAll_appends {parts : List (Value × Json)} {outer : Container} {n : Nat}
    (happends : ∀ p ∈ parts, Appends cs first p.2) (hroot : c.atRoot = false)
    (hcurrent : c.current < c.branches.size) (houter : cs[c.current]? = some outer)
    (hahead : Ahead cs c.branches.size (partContainers outer.place n parts))
    (htracks : Tracks cs first w.tables.size c)
    (hrun : ((storeAll parts).run c).run w = .ok ((), c') w') :
    Tracks cs first w'.tables.size c' ∧
      c'.branches.size = c.branches.size + (partContainers outer.place n parts).length := by
  induction parts generalizing c w n with
  | nil =>
    cases hrun
    exact ⟨htracks, rfl⟩
  | cons p rest ih =>
    obtain ⟨_, c₁, w₁, hexpect, hrun⟩ := bind_ok hrun
    obtain ⟨v, c₂, w₂, hwalk, hrun⟩ := bind_ok hrun
    obtain ⟨_, c₃, w₃, hstore, hrest⟩ := bind_ok hrun
    obtain ⟨hkey, rfl⟩ := expectKey_ok hexpect
    obtain ⟨hkey', htables⟩ := store_ok hstore
    have hroot₁ : c₁.atRoot = false := hkey.atRoot.trans hroot
    have hkept := kept_of_walk (by simp [hroot₁]) hwalk
    have hcurrent₃ : c₃.current = c.current :=
      hkey'.current.trans (hkept.current.trans hkey.current)
    rw [partContainers] at hahead
    -- The part stands in the current branch, and its own branches are appended behind all others.
    obtain ⟨htracks₂, hsize⟩ := happends p (by simp) (outer.place ++ [n]) _ _ _ _ _
      (by simp [hroot₁])
      (by
        rw [hroot₁, hkey.size, hkey.current]
        exact ⟨hcurrent, outer, n, houter, rfl⟩)
      (by
        rw [hkey.size]
        exact hahead.left)
      (htracks.rekeyed hkey) hwalk
    rw [hkey.size] at hsize
    obtain ⟨hdone, hsize'⟩ := ih (n := n + 1) (fun q hq => happends q (List.mem_cons_of_mem _ hq))
      (hkey'.atRoot.trans hkept.inside) (by rw [hcurrent₃, hkey'.size]; omega)
      (by rw [hcurrent₃, houter])
      (by
        rw [hkey'.size, hsize]
        exact hahead.right)
      (by
        rw [htables]
        exact htracks₂.rekeyed hkey')
      hrest
    refine ⟨hdone, ?_⟩
    rw [hsize', hkey'.size, hsize, partContainers, List.length_append, Nat.add_assoc]

theorem walk_appends (j : Json) : Appends cs first j := by
  induction j using Json.induct_parts with
  | scalar j hscalar =>
    intro place c c' w w' v _ _ _ htracks hrun
    rw [walk_scalar hscalar] at hrun
    cases hrun
    rw [containers_scalar hscalar]
    exact ⟨⟨htracks.tables, htracks.branch⟩, rfl⟩
  | container j shape hshape ih =>
    intro place c c' w w' v hroot hparent hahead htracks hrun
    rw [walk_container hshape] at hrun
    obtain ⟨_, c₁, w₁, happend, hrun⟩ := bind_ok hrun
    obtain ⟨_, c₂, w₂, hstore, hflip⟩ := bind_ok hrun
    obtain ⟨b, hb, rfl, rfl⟩ := flipBranch_ok hflip
    cases happend
    rw [containers_container hshape] at hahead ⊢
    obtain ⟨houter, hinside⟩ := hahead.cons
    have hopen := htracks.append (b := ⟨shape, if c.atRoot then none else some c.current,
      w.tables.size, none⟩) houter rfl rfl hparent c.branches.size false
    obtain ⟨hdone, hsize⟩ := storeAll_appends (n := 0) ih rfl (by simp) houter
      (by simpa using hinside) (by simpa using hopen) hstore
    refine ⟨⟨hdone.tables, hdone.branch⟩, ?_⟩
    simp only [Array.size_push] at hsize
    simp only [List.length_cons]
    omega

/-- There is one branch for each container of a tree, in the order of their places, with the tables
from the first one on; each branch but the first knows the one of the enclosing container. -/
structure Mirrors (j : Json) (first : Nat) (branches : Array Branch) (places : List (List Nat)) :
    Prop where
  ascending : places.Pairwise (· < ·)
  complete : ∀ place, place ∈ places ↔ ∃ part shape, j.at? place = some part ∧
    part.shape? = some shape
  size : branches.size = places.length
  branch : ∀ i b place, branches[i]? = some b → places[i]? = some place →
    b.container = first + i ∧ ∃ part, j.at? place = some part ∧ part.shape? = some b.shape
  root : ∀ b, branches[0]? = some b → b.parent = none
  parent : ∀ i b, 0 < i → branches[i]? = some b → ∃ k < i, b.parent = some k ∧
    ∃ outer n, places[k]? = some outer ∧ places[i]? = some (outer ++ [n])

theorem Tracks.mirrors (h : Tracks (containers [] j) first tables c)
    (hsize : c.branches.size = (containers [] j).length) :
    Mirrors j first c.branches ((containers [] j).map Container.place) where
  ascending := List.pairwise_map.2 (Json.containers_ascending j [])
  complete place := by
    rw [List.mem_map]
    constructor
    · rintro ⟨l, hl, rfl⟩
      obtain ⟨inside, part, hplace, hat, hshape⟩ := Json.mem_containers_iff.1 hl
      rw [List.nil_append] at hplace
      exact ⟨part, l.shape, by rw [hplace, hat], hshape⟩
    · rintro ⟨part, shape, hat, hshape⟩
      exact ⟨⟨place, shape⟩, Json.mem_containers_iff.2 ⟨place, part, rfl, hat, hshape⟩, rfl⟩
  size := by rw [hsize, List.length_map]
  branch i b place hb hplace := by
    obtain ⟨l, hl, hshape, hcontainer, -⟩ := h.branch i b hb
    rw [List.getElem?_map, hl, Option.map_some, Option.some.injEq] at hplace
    obtain ⟨inside, part, hinside, hat, hpart⟩ :=
      Json.mem_containers_iff.1 (List.mem_of_getElem? hl)
    rw [List.nil_append] at hinside
    exact ⟨hcontainer, part, by rw [← hplace, hinside, hat], by rw [hshape, hpart]⟩
  root b hb := by
    obtain ⟨l, -, -, -, hparent⟩ := h.branch 0 b hb
    cases hk : b.parent with
    | none => rfl
    | some k =>
      rw [hk] at hparent
      exact absurd hparent.1 (Nat.not_lt_zero k)
  parent i b hi hb := by
    obtain ⟨l, hl, -, -, hparent⟩ := h.branch i b hb
    cases hk : b.parent with
    | none =>
      -- The empty place belongs to the first container.
      rw [hk] at hparent
      have hlt : i < (containers [] j).length := (List.getElem?_eq_some_iff.1 hl).1
      have hless := List.pairwise_iff_getElem.1 (Json.containers_ascending j []) 0 i
        (Nat.lt_trans hi hlt) hlt hi
      rw [(List.getElem?_eq_some_iff.1 hl).2, show l.place = [] from hparent] at hless
      exact absurd hless (List.not_lt_nil _)
    | some k =>
      rw [hk] at hparent
      obtain ⟨hki, outer, n, houter, hplace⟩ := hparent
      exact ⟨k, hki, rfl, outer.place, n, by rw [List.getElem?_map, houter]; rfl,
        by rw [List.getElem?_map, hl, Option.map_some, hplace]⟩

/-! ## Visits -/

theorem storeAll_append (before after : List (Value × Json)) :
    storeAll (before ++ after) = (do
      storeAll before
      storeAll after) := by
  induction before with
  | nil => simp [storeAll]
  | cons p before ih => simp [storeAll, ih]

theorem walkMembers_append (before after : List (String × Json)) :
    walkMembers (before ++ after) = (do
      walkMembers before
      walkMembers after) := by
  simp only [walkMembers_eq_storeAll, named, List.map_append, storeAll_append]

theorem walkItems_append (before after : List Json) (position : Nat) :
    walkItems position (before ++ after) = (do
      walkItems position before
      walkItems (position + before.length) after) := by
  simp only [walkItems_eq_storeAll, Table.numbered_append, storeAll_append]

end

/-- The moment at which the walk of a tree begins, in the course of a conversion. -/
structure Visit where
  tree : Json
  /-- The key that its value is for; the whole tree has none. -/
  key : Option Value
  /-- What is left to do with its value. -/
  rest : Value → Step Value
  converter : Converter
  world : World

namespace Visit

/-- How the conversion ends from here. -/
def outcome (visit : Visit) : EStateM.Result Halt World (Value × Converter) :=
  ((walk visit.tree >>= visit.rest).run visit.converter).run visit.world

/-- The walk of a container comes to one of its parts. -/
inductive Enters : Visit → Visit → Prop
  | member {before after : List (String × Json)} {name : String} {part : Json}
      {key : Option Value} {rest : Value → Step Value} {c c' : Converter} {w w' : World}
      (run : ((do
        appendBranch .map
        walkMembers before
        expectKey (.text name) : Step Unit).run c).run w = .ok ((), c') w') :
      Enters ⟨.obj (before ++ (name, part) :: after), key, rest, c, w⟩
        ⟨part, some (.text name), fun v => do
          store v
          walkMembers after
          rest (← flipBranch), c', w'⟩
  | item {before after : List Json} {part : Json}
      {key : Option Value} {rest : Value → Step Value} {c c' : Converter} {w w' : World}
      (run : ((do
        appendBranch .array
        walkItems 1 before
        expectKey (.ofNat (before.length + 1)) : Step Unit).run c).run w = .ok ((), c') w') :
      Enters ⟨.arr (before ++ part :: after), key, rest, c, w⟩
        ⟨part, some (.ofNat (before.length + 1)), fun v => do
          store v
          walkItems (before.length + 2) after
          rest (← flipBranch), c', w'⟩

variable {outer inner visit : Visit}

/-- The conversion goes through the visits. -/
theorem Enters.outcome_eq (h : outer.Enters inner) : inner.outcome = outer.outcome := by
  cases h with
  | @member before after name part key rest c c' w w' hrun =>
    have hwalk : (walk (.obj (before ++ (name, part) :: after)) >>= rest) = (do
        appendBranch .map
        walkMembers before
        expectKey (.text name)) >>= fun _ => walk part >>= fun v => (do
          store v
          walkMembers after
          rest (← flipBranch)) := by
      simp only [walk, walkMembers_append, walkMembers, bind_assoc]
    simp only [outcome]
    rw [hwalk, run_bind_of_ok hrun]
  | @item before after part key rest c c' w w' hrun =>
    have hwalk : (walk (.arr (before ++ part :: after)) >>= rest) = (do
        appendBranch .array
        walkItems 1 before
        expectKey (.ofNat (before.length + 1))) >>= fun _ => walk part >>= fun v => (do
          store v
          walkItems (before.length + 2) after
          rest (← flipBranch)) := by
      simp only [walk, walkItems_append, walkItems, bind_assoc, Nat.add_comm 1]
    simp only [outcome]
    rw [hwalk, run_bind_of_ok hrun]

/-- A branch was opened, and it waits for the value at a key. -/
structure Waits (c c' : Converter) (key : Value) : Prop where
  inside : c'.atRoot = false
  current : c'.current = c.branches.size
  branch : ∃ b, c'.branches[c'.current]? = some b ∧ b.pendingKey = some key

/-- Whatever was stored before, a part is come to. -/
theorem run_entering (shape : Shape) (before : List (Value × Json)) (key : Value) (c : Converter)
    (w : World) :
    ∃ c' w', ((do
      appendBranch shape
      storeAll before
      expectKey key : Step Unit).run c).run w = .ok ((), c') w' ∧ Waits c c' key := by
  let b : Branch := ⟨shape, if c.atRoot then none else some c.current, w.tables.size, none⟩
  let c₁ : Converter :=
    { c with branches := c.branches.push b, current := c.branches.size, atRoot := false }
  have hb : c₁.branches[c₁.current]? = some b := by simp [c₁]
  have hopen : ((appendBranch shape).run c).run w =
      .ok ((), c₁) { w with tables := w.tables.push ⟨[], shape = .array, 0⟩ } := rfl
  have hbuilds : ∀ p ∈ before, Builds c₁.mode p.2 := fun p _ => build_grows c₁.mode p.2
  obtain ⟨w₂, hfill, -⟩ :=
    fill_grows hbuilds b.container { w with tables := w.tables.push ⟨[], shape = .array, 0⟩ }
  obtain ⟨c₂, hstore, hinside⟩ := storeAll_fills (fun p _ => walk_builds p.2) rfl hb hfill
  obtain ⟨key', hb₂⟩ := hinside.branch
  rw [← hinside.current] at hb₂
  let expecting : Branch := { b with pendingKey := some key }
  refine ⟨{ c₂ with branches := c₂.branches.setIfInBounds c₂.current expecting }, w₂, ?_,
    hinside.inside, hinside.current, expecting, ?_, rfl⟩
  · rw [run_bind_of_ok hopen, run_bind_of_ok hstore]
    exact run_expectKey hb₂ key
  · simp [index_lt hb₂]

theorem Enters.waits (h : outer.Enters inner) :
    ∃ key, inner.key = some key ∧ Waits outer.converter inner.converter key := by
  cases h with
  | @member before after name part key rest c c' w w' hrun =>
    obtain ⟨c₁, w₁, hrun', hwaits⟩ := run_entering .map (named before) (.text name) c w
    rw [walkMembers_eq_storeAll] at hrun
    cases hrun'.symm.trans hrun
    exact ⟨.text name, rfl, hwaits⟩
  | @item before after part key rest c c' w w' hrun =>
    obtain ⟨c₁, w₁, hrun', hwaits⟩ :=
      run_entering .array (Table.numbered 1 before) (.ofNat (before.length + 1)) c w
    rw [walkItems_eq_storeAll] at hrun
    cases hrun'.symm.trans hrun
    exact ⟨.ofNat (before.length + 1), rfl, hwaits⟩

/-- Every part of a container is come to, with its key. -/
theorem exists_enters {p : Value × Json} (hp : p ∈ visit.tree.parts) :
    ∃ inner, visit.Enters inner ∧ inner.tree = p.2 ∧ inner.key = some p.1 := by
  obtain ⟨tree, key, rest, c, w⟩ := visit
  cases tree with
  | arr items =>
    obtain ⟨before, part, after, rfl, rfl⟩ := Table.exists_append_of_mem_numbered hp
    obtain ⟨c', w', hrun, -⟩ :=
      run_entering .array (Table.numbered 1 before) (.ofNat (before.length + 1)) c w
    rw [← walkItems_eq_storeAll] at hrun
    exact ⟨_, .item hrun, rfl, by rw [Nat.add_comm 1]⟩
  | obj members =>
    obtain ⟨⟨name, part⟩, hm, rfl⟩ := List.mem_map.1 hp
    obtain ⟨before, after, rfl⟩ := List.append_of_mem hm
    obtain ⟨c', w', hrun, -⟩ := run_entering .map (named before) (.text name) c w
    rw [← walkMembers_eq_storeAll] at hrun
    exact ⟨_, .member hrun, rfl, rfl⟩
  | _ => cases hp

/-- The walk builds the value of its tree and is back at the branch where it began, which still
waits for that value at its key. -/
def Returns (visit : Visit) : Prop :=
  ∃ v c w b key, ((walk visit.tree).run visit.converter).run visit.world = .ok (v, c) w ∧
    (build visit.converter.mode visit.tree).run visit.world = .ok v w ∧
    c.current = visit.converter.current ∧ c.branches[c.current]? = some b ∧
    visit.converter.branches[visit.converter.current]? = some b ∧
    visit.key = some key ∧ b.pendingKey = some key

theorem Enters.returns (h : outer.Enters inner) : inner.Returns := by
  obtain ⟨key, hkey, hwaits⟩ := h.waits
  obtain ⟨b, hb, hpending⟩ := hwaits.branch
  obtain ⟨v, w', hbuild, -⟩ := build_grows inner.converter.mode inner.tree inner.world
  obtain ⟨c', hwalk, hkept⟩ := walk_builds inner.tree inner.converter _ _ _
    (by simp [hwaits.inside]) hbuild
  refine ⟨v, c', w', b, key, hwalk, hbuild, hkept.current, ?_, hb, hkey, hpending⟩
  rw [hkept.current, hkept.branches _ (index_lt hb), hb]

/-- The beginning of a conversion. -/
def start (mode : NumberMode) (j : Json) (w : World) : Visit :=
  ⟨j, none, pure, { new mode with used := true }, w⟩

end Visit

/-- **The branches of a conversion are a recursion over the tree.** Every conversion ends with the
value that building makes, and back at the first branch; so no value is ever without a key, and no
index out of range. There is one branch for each container, the outer before the inner ones, and
all but the first know the one that they stand in. The conversion visits each part of a container
while the branch of that container is current; and whatever the part is, its walk comes back to
that branch, where the key of the part is still pending. -/
theorem conversion_recurses (mode : NumberMode) (j : Json) (w : World) :
    ∃ v c w' places, ((convert j).run (new mode)).run w = .ok (v, c) w' ∧
      (build mode j).run w = .ok v w' ∧ c.current = 0 ∧
      Mirrors j w.tables.size c.branches places ∧
      ∀ visit, Relation.ReflTransGen Visit.Enters (Visit.start mode j w) visit →
        visit.outcome = .ok (v, c) w' ∧
        (∀ p ∈ visit.tree.parts,
          ∃ inner, visit.Enters inner ∧ inner.tree = p.2 ∧ inner.key = some p.1) ∧
        ∀ inner, visit.Enters inner →
          inner.converter.current = visit.converter.branches.size ∧ inner.Returns := by
  obtain ⟨v, w', hbuild, -⟩ := build_grows mode j w
  let begun : Converter := { new mode with used := true }
  have hroot : begun.atRoot = true → begun.current = begun.branches.size := fun _ => rfl
  obtain ⟨c, hwalk, hkept⟩ := walk_builds j begun w w' v hroot hbuild
  have hempty : Tracks (containers [] j) w.tables.size w.tables.size begun :=
    ⟨rfl, fun i b hb => by simp [begun, new] at hb⟩
  obtain ⟨htracks, hsize⟩ := walk_appends j [] begun c w w' v hroot rfl
    (List.prefix_refl _) hempty hwalk
  refine ⟨v, c, w', _, hwalk, hbuild, hkept.current, htracks.mirrors ?_, fun visit hvisit =>
    ⟨?_, fun p hp => Visit.exists_enters hp, fun inner h => ⟨?_, h.returns⟩⟩⟩
  · simpa [begun, new] using hsize
  · induction hvisit with
    | refl =>
      have : (Visit.start mode j w).outcome = ((walk j).run begun).run w := by
        simp [Visit.outcome, Visit.start, begun]
      rw [this, hwalk]
    | tail _ h ih => rw [h.outcome_eq, ih]
  · obtain ⟨key, -, hwaits⟩ := h.waits
    exact hwaits.current

end ClusterScript.Script.Converter
