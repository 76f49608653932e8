import ClusterScript.Proofs.Json.NumberLeaves
import ClusterScript.Proofs.Script.Running
import ClusterScript.Proofs.Script.Tables
import ClusterScript.Script.Converter

/-!
# The converter and the recursion over a tree

The converter walks a tree with its branches in an array; `build` does the
same by plain recursion. Members and items are filled into a table alike,
key by key, so both are told once, for keys with trees.

* `build_grows`: building succeeds, and all it does is to add tables.
* `walk_builds`: a walk does what building does, and is back at its branch.
* `fromJson_eq_build`: a conversion is building.
-/
namespace ClusterScript.Script

section

variable {mode : NumberMode} {id : Nat}

/-! ## Filling a table -/

/-- Builds trees one by one and sets them at their keys. -/
def fill (mode : NumberMode) (id : Nat) : List (Value × Json) → Run Unit
  | [] => return ()
  | (key, j) :: rest => do
    let v ← build mode j
    Run.setIn id key v
    fill mode id rest

/-- The keys of members with their trees. -/
def named (members : List (String × Json)) : List (Value × Json) :=
  members.map fun m => (.text m.1, m.2)

theorem buildMembers_eq_fill :
    ∀ members, buildMembers mode id members = fill mode id (named members)
  | [] => rfl
  | (k, j) :: rest => by
    rw [buildMembers, named, List.map_cons, fill, buildMembers_eq_fill rest, named]

theorem buildItems_eq_fill :
    ∀ items position,
      buildItems mode id position items = fill mode id (Table.numbered position items)
  | [], _ => rfl
  | j :: rest, position => by
    rw [buildItems, Table.numbered, fill, buildItems_eq_fill rest]

theorem build_obj (members : List (String × Json)) : build mode (.obj members) = do
    let id ← Run.newTable ⟨[], false, 0⟩
    fill mode id (named members)
    return .table id := by
  simp only [build, buildMembers_eq_fill]

theorem build_arr (items : List Json) : build mode (.arr items) = do
    let id ← Run.newTable ⟨[], true, 0⟩
    fill mode id (Table.numbered 1 items)
    return .table id := by
  simp only [build, buildItems_eq_fill]

/-- Building a tree succeeds and adds tables only. -/
def Builds (mode : NumberMode) (j : Json) : Prop :=
  ∀ w, ∃ v w', (build mode j).run w = .ok v w' ∧ w.Grown none w'

theorem fill_grows {pairs : List (Value × Json)} (h : ∀ p ∈ pairs, Builds mode p.2) (id : Nat)
    (w : World) :
    ∃ w', (fill mode id pairs).run w = .ok () w' ∧ w.Grown (some id) w' := by
  induction pairs generalizing w with
  | nil => exact ⟨w, rfl, .refl w⟩
  | cons p rest ih =>
    obtain ⟨v, w₁, hbuild, hgrown⟩ := h p (by simp) w
    obtain ⟨w', hrest, hgrown'⟩ := ih (fun p hp => h p (List.mem_cons_of_mem _ hp))
      { w₁ with tables := w₁.tables.modify id fun t => t.set p.1 v }
    refine ⟨w', ?_, hgrown.weaken.trans ((World.Grown.modify w₁ id _).trans hgrown')⟩
    rw [fill, Run.run_bind_of_ok hbuild, Run.run_bind_of_ok (Run.run_setIn id p.1 v)]
    exact hrest

/-- A new table that is filled. -/
theorem table_grows {pairs : List (Value × Json)} (h : ∀ p ∈ pairs, Builds mode p.2) (t : Table)
    (w : World) : ∃ v w', (do
      let id ← Run.newTable t
      fill mode id pairs
      return Value.table id : Run Value).run w = .ok v w' ∧ w.Grown none w' := by
  obtain ⟨w', hfill, hgrown⟩ :=
    fill_grows h w.tables.size { w with tables := w.tables.push t }
  refine ⟨.table w.tables.size, w', ?_, .ofNew (.push w t) hgrown⟩
  rw [Run.run_bind_of_ok (Run.run_newTable t), Run.run_bind_of_ok hfill]
  rfl

theorem build_grows (mode : NumberMode) (j : Json) : Builds mode j := by
  intro w
  induction j using Json.induct generalizing w with
  | null | bool | num | str => exact ⟨_, w, rfl, .refl w⟩
  | arr items ih =>
    rw [build_arr]
    refine table_grows (fun p hp => ?_) _ w
    exact ih p.2 (Table.snd_mem_of_mem_numbered hp)
  | obj members ih =>
    rw [build_obj]
    refine table_grows (fun p hp => ?_) _ w
    obtain ⟨m, hm, rfl⟩ := List.mem_map.1 hp
    exact ih m hm

end

/-! ## Walking -/

namespace Converter

/-- What a walk leaves as it was: it is back at its branch, and all branches that were there
before are still the same. -/
structure Kept (c c' : Converter) : Prop where
  mode : c'.mode = c.mode
  current : c'.current = c.current
  used : c'.used = c.used
  inside : c'.atRoot = false
  size : c.branches.size ≤ c'.branches.size
  branches : ∀ i < c.branches.size, c'.branches[i]? = c.branches[i]?

/-- The same for what goes on inside of a branch, whose pending key may differ. -/
structure KeptInside (b : Branch) (c c' : Converter) : Prop where
  mode : c'.mode = c.mode
  current : c'.current = c.current
  used : c'.used = c.used
  inside : c'.atRoot = false
  size : c.branches.size ≤ c'.branches.size
  branches : ∀ i < c.branches.size, i ≠ c.current → c'.branches[i]? = c.branches[i]?
  branch : ∃ key, c'.branches[c.current]? = some { b with pendingKey := key }

/-- A walk of a tree does what building it does. -/
def Walks (j : Json) : Prop :=
  ∀ (c : Converter) (w w' : World) (v : Value),
    (c.atRoot = true → c.current = c.branches.size) → (build c.mode j).run w = .ok v w' →
      ∃ c', ((walk j).run c).run w = .ok (v, c') w' ∧ Kept c c'

/-- Walks trees one by one and stores them at their keys. -/
def storeAll : List (Value × Json) → Step Unit
  | [] => return ()
  | (key, j) :: rest => do
    expectKey key
    let v ← walk j
    store v
    storeAll rest

section

variable {α β : Type} {c c₁ c' : Converter} {w w₁ w' : World} {b : Branch}

theorem walkMembers_eq_storeAll :
    ∀ members, walkMembers members = storeAll (named members)
  | [] => rfl
  | (k, j) :: rest => by
    rw [walkMembers, named, List.map_cons, storeAll, walkMembers_eq_storeAll rest, named]

theorem walkItems_eq_storeAll :
    ∀ items position, walkItems position items = storeAll (Table.numbered position items)
  | [], _ => rfl
  | j :: rest, position => by
    rw [walkItems, Table.numbered, storeAll, walkItems_eq_storeAll rest]

theorem run_bind_of_ok {x : Step α} {f : α → Step β} {a : α}
    (h : (x.run c).run w = .ok (a, c₁) w₁) :
    ((x >>= f).run c).run w = ((f a).run c₁).run w₁ := by
  rw [StateT.run_bind, Run.run_bind_of_ok h]

theorem run_currentBranch (h : c.branches[c.current]? = some b) :
    (currentBranch.run c).run w = .ok (b, c) w := by
  simp [currentBranch, h]

theorem run_expectKey (h : c.branches[c.current]? = some b) (key : Value) :
    ((expectKey key).run c).run w =
      .ok ((), { c with
        branches := c.branches.setIfInBounds c.current { b with pendingKey := some key } }) w := by
  rw [expectKey, run_bind_of_ok (run_currentBranch h)]
  rfl

theorem run_store {key : Value} (h : c.branches[c.current]? = some b)
    (hkey : b.pendingKey = some key) (v : Value) :
    ((store v).run c).run w =
      .ok ((), { c with
        branches := c.branches.setIfInBounds c.current { b with pendingKey := none } })
        { w with tables := w.tables.modify b.container fun t => t.set key v } := by
  rw [store, run_bind_of_ok (run_currentBranch h), hkey]
  rfl

theorem run_flipBranch (h : c.branches[c.current]? = some b) :
    (flipBranch.run c).run w =
      .ok (.table b.container, { c with current := b.parent.getD c.current }) w := by
  rw [flipBranch, run_bind_of_ok (run_currentBranch h)]
  rfl

theorem index_lt (h : c.branches[c.current]? = some b) : c.current < c.branches.size :=
  (Array.getElem?_eq_some_iff.1 h).1

/-- What goes on inside of a branch may go on there after a value was stored. -/
theorem KeptInside.trans {key : Option Value} (h : KeptInside b c c₁)
    (h' : KeptInside { b with pendingKey := key } c₁ c') : KeptInside b c c' where
  mode := h'.mode.trans h.mode
  current := h'.current.trans h.current
  used := h'.used.trans h.used
  inside := h'.inside
  size := Nat.le_trans h.size h'.size
  branches i hi hne := by
    rw [h'.branches i (Nat.lt_of_lt_of_le hi h.size) (by rw [h.current]; exact hne)]
    exact h.branches i hi hne
  branch := by
    obtain ⟨key', hkey'⟩ := h'.branch
    exact ⟨key', by rw [← h.current]; exact hkey'⟩

/-- One tree that is stored in a branch: its key is expected, then taken. -/
theorem storeAll_step {key v : Value} {j : Json} (hwalk : Walks j) (hroot : c.atRoot = false)
    (hb : c.branches[c.current]? = some b) (hbuild : (build c.mode j).run w = .ok v w₁) :
    ∃ c', (∀ rest, ((storeAll ((key, j) :: rest)).run c).run w = ((storeAll rest).run c').run
        { w₁ with tables := w₁.tables.modify b.container fun t => t.set key v }) ∧
      c'.branches[c'.current]? = some { b with pendingKey := none } ∧ KeptInside b c c' := by
  have hlt := index_lt hb
  let expecting : Branch := { b with pendingKey := some key }
  let c₁ := { c with branches := c.branches.setIfInBounds c.current expecting }
  have hb₁ : c₁.branches[c₁.current]? = some expecting := by simp [c₁, hlt]
  obtain ⟨c₂, hrun, hkept⟩ := hwalk c₁ w w₁ v (by simp [c₁, hroot]) hbuild
  have hsize : c.branches.size ≤ c₂.branches.size := by simpa [c₁] using hkept.size
  have hcur : c₂.current = c.current := hkept.current
  have hb₂ : c₂.branches[c₂.current]? = some expecting := by
    rw [hcur, hkept.branches _ (by simpa [c₁] using hlt)]
    exact hb₁
  let stored : Branch := { b with pendingKey := none }
  let c₃ := { c₂ with branches := c₂.branches.setIfInBounds c₂.current stored }
  have hb₃ : c₃.branches[c₃.current]? = some stored := by simp [c₃, index_lt hb₂]
  refine ⟨c₃, fun rest => ?_, hb₃, hkept.mode, hcur, hkept.used, hkept.inside, ?_, ?_, none, ?_⟩
  · rw [storeAll, run_bind_of_ok (run_expectKey hb key), run_bind_of_ok hrun,
      run_bind_of_ok (run_store hb₂ rfl v)]
  · simpa [c₃] using hsize
  · intro i hi hne
    simp only [c₃, Array.getElem?_setIfInBounds_ne (show c₂.current ≠ i by omega)]
    rw [hkept.branches i (by simpa [c₁] using hi)]
    simp only [c₁, Array.getElem?_setIfInBounds_ne (Ne.symm hne)]
  · rw [← hcur]
    exact hb₃

/-- Storing trees in a branch does what filling its table does. -/
theorem storeAll_fills {pairs : List (Value × Json)} (hwalk : ∀ p ∈ pairs, Walks p.2)
    (hroot : c.atRoot = false) (hb : c.branches[c.current]? = some b)
    (hfill : (fill c.mode b.container pairs).run w = .ok () w') :
    ∃ c', ((storeAll pairs).run c).run w = .ok ((), c') w' ∧ KeptInside b c c' := by
  induction pairs generalizing c b w with
  | nil =>
    cases hfill
    exact ⟨c, rfl, rfl, rfl, rfl, hroot, Nat.le_refl _, fun _ _ _ => rfl, b.pendingKey, hb⟩
  | cons p rest ih =>
    obtain ⟨v, w₁, hbuild, hfill⟩ := Run.bind_ok hfill
    obtain ⟨_, w₂, hset, hfill⟩ := Run.bind_ok hfill
    cases hset
    obtain ⟨c₁, hstep, hb₁, hfirst⟩ := storeAll_step (hwalk p (by simp)) hroot hb hbuild
    rw [← hfirst.mode] at hfill
    obtain ⟨c', hrest, hinside⟩ :=
      ih (fun p hp => hwalk p (List.mem_cons_of_mem _ hp)) hfirst.inside hb₁ hfill
    exact ⟨c', (hstep rest).trans hrest, hfirst.trans hinside⟩

/-- Opening a branch, storing trees in it and going back from it. -/
theorem container_walks {pairs : List (Value × Json)} (hwalk : ∀ p ∈ pairs, Walks p.2)
    (shape : Shape) {v : Value} (hroot : c.atRoot = true → c.current = c.branches.size)
    (hbuild : (do
      let id ← Run.newTable ⟨[], shape = .array, 0⟩
      fill c.mode id pairs
      return Value.table id : Run Value).run w = .ok v w') :
    ∃ c', ((do
      appendBranch shape
      storeAll pairs
      flipBranch : Step Value).run c).run w = .ok (v, c') w' ∧ Kept c c' := by
  obtain ⟨id, w₁, hnew, hbuild⟩ := Run.bind_ok hbuild
  cases hnew
  obtain ⟨_, w₂, hfill, hdone⟩ := Run.bind_ok hbuild
  cases hdone
  let b : Branch := ⟨shape, if c.atRoot then none else some c.current, w.tables.size, none⟩
  let c₁ : Converter :=
    { c with branches := c.branches.push b, current := c.branches.size, atRoot := false }
  have hb : c₁.branches[c₁.current]? = some b := by simp [c₁]
  obtain ⟨c₂, hrun, hinside⟩ := storeAll_fills hwalk (c := c₁) rfl hb hfill
  obtain ⟨key, hkey⟩ := hinside.branch
  have hcur : c₂.current = c.branches.size := hinside.current
  have hflip := run_flipBranch (c := c₂) (b := { b with pendingKey := key }) (w := w')
    (by rw [hcur]; exact hkey)
  refine ⟨{ c₂ with current := b.parent.getD c₂.current }, ?_, hinside.mode, ?_, hinside.used,
    hinside.inside, ?_, ?_⟩
  · have happend : ((appendBranch shape).run c).run w =
        .ok ((), c₁) { w with tables := w.tables.push ⟨[], shape = .array, 0⟩ } := rfl
    rw [run_bind_of_ok happend, run_bind_of_ok hrun]
    exact hflip
  · show b.parent.getD c₂.current = c.current
    cases hc : c.atRoot with
    | true => simp [b, hc, hcur, hroot hc]
    | false => simp [b, hc]
  · have := hinside.size
    simp only [c₁, Array.size_push] at this
    show c.branches.size ≤ c₂.branches.size
    omega
  · intro i hi
    have hne : i ≠ c₁.current := Nat.ne_of_lt hi
    show c₂.branches[i]? = c.branches[i]?
    rw [hinside.branches i (by simp [c₁]; omega) hne]
    simp [c₁, Array.getElem?_push, Nat.ne_of_lt hi]

/-- A scalar is a value at once. -/
theorem scalar_walks {j : Json} {v : Value} (hwalk : walk j = do
      modify fun c => { c with atRoot := false }
      return scalarValue (← get).mode j)
    (hbuild : build c.mode j = pure (scalarValue c.mode j))
    (hrun : (build c.mode j).run w = .ok v w') :
    ∃ c', ((walk j).run c).run w = .ok (v, c') w' ∧ Kept c c' := by
  rw [hbuild] at hrun
  cases hrun
  rw [hwalk]
  exact ⟨_, rfl, rfl, rfl, rfl, rfl, Nat.le_refl _, fun _ _ => rfl⟩

theorem walk_builds (j : Json) : Walks j := by
  induction j using Json.induct with
  | null | bool | num | str => exact fun c w w' v _ hrun => scalar_walks rfl rfl hrun
  | arr items ih =>
    intro c w w' v hroot hrun
    rw [build_arr] at hrun
    have := container_walks (fun p hp => ih p.2 (Table.snd_mem_of_mem_numbered hp)) .array
      hroot hrun
    rwa [walk, walkItems_eq_storeAll]
  | obj members ih =>
    intro c w w' v hroot hrun
    rw [build_obj] at hrun
    have hwalk : ∀ p ∈ named members, Walks p.2 := by
      intro p hp
      obtain ⟨m, hm, rfl⟩ := List.mem_map.1 hp
      exact ih m hm
    have := container_walks hwalk .map hroot hrun
    rwa [walk, walkMembers_eq_storeAll]

end

end Converter

/-- **A conversion is building.** What the converter makes of a tree with its branches is what
the recursion over the tree makes of it. -/
theorem fromJson_eq_build (mode : NumberMode) (j : Json) (w : World) :
    (fromJson mode j).run w = (build mode j).run w := by
  obtain ⟨v, w', hbuild, -⟩ := build_grows mode j w
  obtain ⟨c', hwalk, -⟩ := Converter.walk_builds j { Converter.new mode with used := true }
    w w' v (fun _ => rfl) hbuild
  rw [hbuild, fromJson]
  exact Run.run_bind_of_ok hwalk

end ClusterScript.Script
