import ClusterScript.Proofs.Script.Conversion
import Mathlib.Data.List.Forall2

/-!
# What building puts into tables

A container has parts, each at a key: a member of an object at its name, an
element of a list at its position, counted from 1. Building makes a table for
each container, and the entries of it are values of the parts.

Tables are made from the outside in, so that a table only refers to tables
with greater numbers. What the tables from a number on say about a value is
therefore not touched when the tables before are filled any further, and what
holds of all values that a container is built of can be read off its table.

* `Json.parts`: the parts of a container.
* `Saying.Lasting`: what tables say, whatever happens to those before.
* `BuiltAs`: what holds of the value that a tree is built as.
* `built_container`: the table that a container is built as.
-/
namespace ClusterScript

open Script (Value Shape Table)

/-! ## Containers and their parts -/

namespace Json

/-- The shape of a container; other trees have none. -/
def shape? : Json → Option Shape
  | .obj _ => some .map
  | .arr _ => some .array
  | _ => none

/-- What a container is made of, each part at its key. -/
def parts : Json → List (Value × Json)
  | .obj members => Script.named members
  | .arr items => Table.numbered 1 items
  | _ => []

/-- Induction over a tree: a container from its parts. -/
theorem induct_parts {P : Json → Prop} (scalar : ∀ j, j.shape? = none → P j)
    (container : ∀ j s, j.shape? = some s → (∀ p ∈ j.parts, P p.2) → P j) (j : Json) : P j := by
  induction j using induct with
  | null | bool | num | str => exact scalar _ rfl
  | arr items ih =>
    exact container _ _ rfl fun p hp => ih p.2 (Table.snd_mem_of_mem_numbered hp)
  | obj members ih =>
    refine container _ _ rfl fun p hp => ?_
    obtain ⟨m, hm, rfl⟩ := List.mem_map.1 hp
    exact ih m hm

theorem Canonical.part {j : Json} {p : Value × Json} (h : j.Canonical) (hp : p ∈ j.parts) :
    p.2.Canonical := by
  cases j with
  | arr items =>
    rw [Canonical, canonicalItems_iff] at h
    exact h p.2 (Table.snd_mem_of_mem_numbered hp)
  | obj members =>
    rw [Canonical, canonicalMembers_iff] at h
    obtain ⟨m, hm, rfl⟩ := List.mem_map.1 hp
    exact h.2 m hm
  | _ => cases hp

theorem Bounded.part {j : Json} {p : Value × Json} (h : j.Bounded) (hp : p ∈ j.parts) :
    p.2.Bounded := by
  cases j with
  | arr items =>
    rw [Bounded, boundedItems_iff] at h
    exact h.2 p.2 (Table.snd_mem_of_mem_numbered hp)
  | obj members =>
    rw [Bounded, boundedMembers_iff] at h
    obtain ⟨m, hm, rfl⟩ := List.mem_map.1 hp
    exact h m hm
  | _ => cases hp

end Json

namespace Script

theorem pairwise_numbered {items : List Json} {start : Nat}
    (h : start + items.length ≤ 0x8000000000000000) :
    (Table.numbered start items).Pairwise fun p q => p.1 ≠ q.1 := by
  induction items generalizing start with
  | nil => exact .nil
  | cons j rest ih =>
    rw [List.length_cons] at h
    refine List.pairwise_cons.2 ⟨fun q hq heq => ?_, ih (by omega)⟩
    exact Table.numbered_ne (by omega) (by omega) (Or.inl (by omega)) q hq heq.symm

theorem pairwise_named {members : List (String × Json)} (h : Json.Sorted members) :
    (named members).Pairwise fun p q => p.1 ≠ q.1 := by
  refine List.pairwise_map.2 (h.imp fun {a b} hlt heq => ?_)
  rw [Value.text.inj heq] at hlt
  exact String.lt_irrefl _ hlt

/-- No two parts of a container stand at one key. -/
theorem pairwise_parts {j : Json} (hc : j.Canonical) (hb : j.Bounded) :
    j.parts.Pairwise fun p q => p.1 ≠ q.1 := by
  cases j with
  | arr items =>
    rw [Json.Bounded] at hb
    exact pairwise_numbered (by omega)
  | obj members =>
    rw [Json.Canonical] at hc
    exact pairwise_named hc.1
  | _ => exact .nil

/-! ## Building -/

/-- What the tables from a number on say about a value and its tree. -/
abbrev Saying := Array Table → Nat → Value → Json → Prop

/-- It stays true as tables are added, whatever becomes of those before. -/
structure Saying.Lasting (R : Saying) : Prop where
  mono : ∀ {tables tables' : Array Table} {low low' : Nat} {v : Value} {j : Json},
    R tables low v j → low' ≤ low → tables.size ≤ tables'.size →
      (∀ i, low ≤ i → i < tables.size → tables'[i]? = tables[i]?) → R tables' low' v j

/-- It holds of what a tree is built as, which is some value. -/
def BuiltAs (mode : NumberMode) (R : Saying) (j : Json) : Prop :=
  ∀ (w w' : World) (v : Value), (build mode j).run w = .ok v w' →
    v ≠ .nil ∧ R w'.tables w.tables.size v j

section

variable {mode : NumberMode} {id : Nat} {w w' : World} {t : Table} {R : Saying} {j : Json}

theorem build_scalar (h : j.shape? = none) : build mode j = pure (scalarValue mode j) := by
  cases j with
  | arr => cases h
  | obj => cases h
  | _ => rfl

/-- A number is no table, and no nil. -/
theorem numberValue_cases (mode : NumberMode) (n : Number) :
    (∃ s, numberValue mode n = .text s) ∨ (∃ i, numberValue mode n = .int i) ∨
      ∃ x, numberValue mode n = .float x := by
  cases mode with
  | decimalString => exact Or.inl ⟨Decimal.sixPlaces n.toBinary64, by cases n <;> rfl⟩
  | native =>
    cases n with
    | float x => exact Or.inr (Or.inr ⟨x, rfl⟩)
    | whole n =>
      simp only [numberValue]
      split
      · exact Or.inr (Or.inl ⟨_, rfl⟩)
      · exact Or.inr (Or.inr ⟨_, rfl⟩)

theorem scalarValue_ne_nil (h : j.shape? = none) : scalarValue mode j ≠ .nil := by
  cases j with
  | num n =>
    obtain ⟨_, hn⟩ | ⟨_, hn⟩ | ⟨_, hn⟩ := numberValue_cases mode n <;> simp [scalarValue, hn]
  | arr => cases h
  | obj => cases h
  | _ => simp [scalarValue]

theorem build_container {s : Shape} (h : j.shape? = some s) : build mode j = do
    let id ← Run.newTable ⟨[], s = .array, 0⟩
    fill mode id j.parts
    return .table id := by
  cases j with
  | arr items =>
    cases h
    exact build_arr items
  | obj members =>
    cases h
    exact build_obj members
  | _ => cases h

theorem grown_of_build {v : Value} (h : (build mode j).run w = .ok v w') :
    w.Grown none w' := by
  obtain ⟨v₁, w₁, hrun, hgrown⟩ := build_grows mode j w
  cases hrun.symm.trans h
  exact hgrown

theorem grown_of_fill {pairs : List (Value × Json)}
    (h : (fill mode id pairs).run w = .ok () w') : w.Grown (some id) w' := by
  obtain ⟨w₁, hrun, hgrown⟩ := fill_grows (fun p _ => build_grows mode p.2) id w
  cases hrun.symm.trans h
  exact hgrown

/-- A table that was filled at new keys has one more entry for each of them, of a value that the
tree of that key was built as. -/
theorem fill_built {pairs : List (Value × Json)} (hlast : R.Lasting)
    (hbuilt : ∀ p ∈ pairs, BuiltAs mode R p.2)
    (ht : w.tables[id]? = some t) (hkeys : pairs.Pairwise fun p q => p.1 ≠ q.1)
    (hnew : ∀ p ∈ pairs, ∀ e ∈ t.entries, e.1 ≠ p.1)
    (hfill : (fill mode id pairs).run w = .ok () w') :
    ∃ entries, w'.tables[id]? = some { t with entries := t.entries ++ entries } ∧
      List.Forall₂ (fun e p => e.1 = p.1 ∧ e.2 ≠ .nil ∧ R w'.tables (id + 1) e.2 p.2)
        entries pairs := by
  induction pairs generalizing w t with
  | nil =>
    cases hfill
    exact ⟨[], by simpa using ht, .nil⟩
  | cons p rest ih =>
    have hid : id < w.tables.size := (Array.getElem?_eq_some_iff.1 ht).1
    obtain ⟨v, w₁, hbuild, hfill⟩ := Run.bind_ok hfill
    obtain ⟨_, w₂, hset, hfill⟩ := Run.bind_ok hfill
    cases hset
    obtain ⟨hv, hsays⟩ := hbuilt p (by simp) w w₁ v hbuild
    have hgrown := grown_of_build hbuild
    have hgrown' := grown_of_fill hfill
    have hset : t.set p.1 v = { t with entries := t.entries ++ [(p.1, v)] } :=
      Table.set_fresh hv (hnew p (by simp))
    have ht₂ : (w₁.tables.modify id fun t => t.set p.1 v)[id]? =
        some { t with entries := t.entries ++ [(p.1, v)] } := by
      rw [Array.getElem?_modify, if_pos rfl, hgrown.old id hid (by simp), ht, Option.map_some, hset]
    obtain ⟨hhead, hrest⟩ := List.pairwise_cons.1 hkeys
    have hnew' : ∀ q ∈ rest, ∀ e ∈ t.entries ++ [(p.1, v)], e.1 ≠ q.1 := by
      intro q hq e he
      rcases List.mem_append.1 he with he | he
      · exact hnew q (List.mem_cons_of_mem _ hq) e he
      · rw [List.mem_singleton.1 he]
        exact hhead q hq
    obtain ⟨entries, hentries, hall⟩ :=
      ih (fun q hq => hbuilt q (List.mem_cons_of_mem _ hq)) ht₂ hrest hnew' hfill
    refine ⟨(p.1, v) :: entries, by simpa using hentries, .cons ⟨rfl, hv, ?_⟩ hall⟩
    -- The tables that were made for this value lie behind the one that is filled.
    have hsize := hgrown'.size
    simp only [Array.size_modify] at hsize
    refine hlast.mono hsays hid hsize fun i hi hlt => ?_
    have hne : id ≠ i := by omega
    rw [hgrown'.old i (by simpa using hlt) (by simpa using hne), Array.getElem?_modify, if_neg hne]

/-- A container is built as a table with an entry for each part, at its key. -/
theorem built_container {s : Shape} {v : Value} (hlast : R.Lasting)
    (hbuilt : ∀ p ∈ j.parts, BuiltAs mode R p.2) (hkeys : j.parts.Pairwise fun p q => p.1 ≠ q.1)
    (hshape : j.shape? = some s) (hrun : (build mode j).run w = .ok v w') :
    ∃ entries, v = .table w.tables.size ∧
      w'.tables[w.tables.size]? = some ⟨entries, s = .array, 0⟩ ∧
      List.Forall₂ (fun e p => e.1 = p.1 ∧ e.2 ≠ .nil ∧
        R w'.tables (w.tables.size + 1) e.2 p.2) entries j.parts := by
  rw [build_container hshape] at hrun
  obtain ⟨_, w₁, hnew, hrun⟩ := Run.bind_ok hrun
  cases hnew
  obtain ⟨_, _, hfill, hdone⟩ := Run.bind_ok hrun
  cases hdone
  obtain ⟨entries, ht, hall⟩ := fill_built (R := R) (t := ⟨[], s = .array, 0⟩) hlast hbuilt
    (by simp) hkeys (by simp) hfill
  exact ⟨entries, rfl, ht, hall⟩

theorem numbered_of_keys {entries : List (Value × Value)} {S : Value → Json → Prop} :
    ∀ {items : List Json} {start : Nat},
      List.Forall₂ (fun e p => e.1 = p.1 ∧ S e.2 p.2) entries (Table.numbered start items) →
        ∃ values, entries = Table.numbered start values ∧ List.Forall₂ S values items := by
  induction entries with
  | nil =>
    intro items start h
    cases items with
    | nil => exact ⟨[], rfl, .nil⟩
    | cons j rest => cases h
  | cons e entries ih =>
    intro items start h
    cases items with
    | nil => cases h
    | cons j rest =>
      obtain ⟨⟨hkey, hS⟩, hrest⟩ := List.forall₂_cons.1 h
      obtain ⟨values, hvalues, hall⟩ := ih hrest
      refine ⟨e.2 :: values, ?_, .cons hS hall⟩
      rw [Table.numbered, ← hvalues, ← show e.1 = .ofNat start from hkey]

/-- What is built of a list is a table of what its elements were built as. -/
theorem built_arr {items : List Json} {v : Value} (hlast : R.Lasting)
    (hbuilt : ∀ j ∈ items, BuiltAs mode R j) (hlen : items.length < 0x8000000000000000)
    (hrun : (build mode (.arr items)).run w = .ok v w') :
    ∃ values, v = .table w.tables.size ∧
      w'.tables[w.tables.size]? = some ⟨Table.numbered 1 values, true, 0⟩ ∧
      (∀ u ∈ values, u ≠ .nil) ∧
      List.Forall₂ (R w'.tables (w.tables.size + 1)) values items := by
  have hkeys : (Table.numbered 1 items).Pairwise fun p q => p.1 ≠ q.1 :=
    pairwise_numbered (by omega)
  obtain ⟨entries, hv, ht, hall⟩ := built_container (j := .arr items) hlast
    (fun p hp => hbuilt p.2 (Table.snd_mem_of_mem_numbered hp)) hkeys rfl hrun
  obtain ⟨values, rfl, hvalues⟩ := numbered_of_keys
    (S := fun v j => v ≠ .nil ∧ R w'.tables (w.tables.size + 1) v j) hall
  obtain ⟨hnil, hvalues⟩ := (List.forall₂_and_left _ _).1 hvalues
  exact ⟨values, hv, ht, hnil, hvalues⟩

/-- What is built of an object is a table with an entry for each member, at its name. -/
theorem built_obj {members : List (String × Json)} {v : Value} (hlast : R.Lasting)
    (hbuilt : ∀ m ∈ members, BuiltAs mode R m.2) (hsorted : Json.Sorted members)
    (hrun : (build mode (.obj members)).run w = .ok v w') :
    ∃ entries, v = .table w.tables.size ∧ w'.tables[w.tables.size]? = some ⟨entries, false, 0⟩ ∧
      List.Forall₂ (fun e m => e.1 = .text m.1 ∧ e.2 ≠ .nil ∧
        R w'.tables (w.tables.size + 1) e.2 m.2) entries members := by
  obtain ⟨entries, hv, ht, hall⟩ := built_container (j := .obj members) hlast (fun p hp => by
    obtain ⟨m, hm, rfl⟩ := List.mem_map.1 hp
    exact hbuilt m hm) (pairwise_named hsorted) rfl hrun
  exact ⟨entries, hv, ht, List.forall₂_map_right_iff.1 hall⟩

end

end Script

end ClusterScript
