import ClusterScript.Json.Basic

/-!
# Trees and their numbers

`Json.mapNumbers` replaces the number leaves of a tree and keeps everything
else: keys, nesting, nulls, empty lists and empty objects.

* `Json.induct`: induction over a tree by its containers.
* `mapNumbers_eq_self_iff`: nothing changes when no number does.
* `sortMembers_of_sorted`: members in order are taken as they are.
-/
namespace ClusterScript.Json

/-- Induction over a tree: a container from all that it holds. -/
theorem induct {P : Json → Prop} (null : P .null) (bool : ∀ b, P (.bool b))
    (num : ∀ n, P (.num n)) (str : ∀ s, P (.str s))
    (arr : ∀ items, (∀ j ∈ items, P j) → P (.arr items))
    (obj : ∀ members, (∀ m ∈ members, P m.2) → P (.obj members)) : ∀ j, P j
  | .null => null
  | .bool b => bool b
  | .num n => num n
  | .str s => str s
  | .arr items => arr items fun j hj =>
    have := List.sizeOf_lt_of_mem hj
    induct null bool num str arr obj j
  | .obj members => obj members fun m hm =>
    have := List.sizeOf_lt_of_mem hm
    have : sizeOf m.2 < sizeOf m := by
      obtain ⟨k, j⟩ := m
      simp only [Prod.mk.sizeOf_spec]
      omega
    induct null bool num str arr obj m.2
termination_by j => sizeOf j
decreasing_by all_goals simp; omega

/-! ## Replacing number leaves -/

mutual

/-- Replaces every number leaf. -/
def mapNumbers (f : Number → Json) : Json → Json
  | .num n => f n
  | .arr items => .arr (mapItems f items)
  | .obj members => .obj (mapMembers f members)
  | .null => .null
  | .bool b => .bool b
  | .str s => .str s

def mapItems (f : Number → Json) : List Json → List Json
  | [] => []
  | j :: rest => mapNumbers f j :: mapItems f rest

def mapMembers (f : Number → Json) : List (String × Json) → List (String × Json)
  | [] => []
  | (k, j) :: rest => (k, mapNumbers f j) :: mapMembers f rest

end

mutual

/-- The number leaves, from left to right. -/
def numbers : Json → List Number
  | .num n => [n]
  | .arr items => itemNumbers items
  | .obj members => memberNumbers members
  | _ => []

def itemNumbers : List Json → List Number
  | [] => []
  | j :: rest => numbers j ++ itemNumbers rest

def memberNumbers : List (String × Json) → List Number
  | [] => []
  | (_, j) :: rest => numbers j ++ memberNumbers rest

end

mutual

/-- What a machine can hold: floats are finite, and the places of a list are integers of 64
bits. -/
def Bounded : Json → Prop
  | .num (.float x) => x.isFinite = true
  | .arr items => items.length < 0x8000000000000000 ∧ BoundedItems items
  | .obj members => BoundedMembers members
  | _ => True

def BoundedItems : List Json → Prop
  | [] => True
  | j :: rest => Bounded j ∧ BoundedItems rest

def BoundedMembers : List (String × Json) → Prop
  | [] => True
  | (_, j) :: rest => Bounded j ∧ BoundedMembers rest

end

section

variable {f : Number → Json}

theorem mapItems_eq : ∀ items, mapItems f items = items.map (mapNumbers f)
  | [] => rfl
  | j :: rest => by rw [mapItems, mapItems_eq rest, List.map_cons]

theorem mapMembers_eq :
    ∀ members, mapMembers f members = members.map fun m => (m.1, mapNumbers f m.2)
  | [] => rfl
  | (k, j) :: rest => by rw [mapMembers, mapMembers_eq rest, List.map_cons]

theorem mem_itemNumbers {n : Number} :
    ∀ items : List Json, n ∈ itemNumbers items ↔ ∃ j ∈ items, n ∈ numbers j
  | [] => by simp [itemNumbers]
  | j :: rest => by simp [itemNumbers, mem_itemNumbers rest]

theorem mem_memberNumbers {n : Number} :
    ∀ members : List (String × Json),
      n ∈ memberNumbers members ↔ ∃ m ∈ members, n ∈ numbers m.2
  | [] => by simp [memberNumbers]
  | (k, j) :: rest => by simp [memberNumbers, mem_memberNumbers rest]

theorem boundedItems_iff : ∀ items : List Json, BoundedItems items ↔ ∀ j ∈ items, Bounded j
  | [] => by simp [BoundedItems]
  | j :: rest => by simp [BoundedItems, boundedItems_iff rest]

theorem boundedMembers_iff :
    ∀ members : List (String × Json), BoundedMembers members ↔ ∀ m ∈ members, Bounded m.2
  | [] => by simp [BoundedMembers]
  | (k, j) :: rest => by simp [BoundedMembers, boundedMembers_iff rest]

theorem canonicalItems_iff :
    ∀ items : List Json, CanonicalItems items ↔ ∀ j ∈ items, Canonical j
  | [] => by simp [CanonicalItems]
  | j :: rest => by simp [CanonicalItems, canonicalItems_iff rest]

theorem canonicalMembers_iff :
    ∀ members : List (String × Json), CanonicalMembers members ↔ ∀ m ∈ members, Canonical m.2
  | [] => by simp [CanonicalMembers]
  | (k, j) :: rest => by simp [CanonicalMembers, canonicalMembers_iff rest]

theorem map_eq_self_iff {α : Type} {g : α → α} {l : List α} :
    l.map g = l ↔ ∀ a ∈ l, g a = a := by
  have h := List.map_inj_left (l := l) (f := g) (g := id)
  rwa [List.map_id] at h

/-- A tree is unchanged exactly when each of its numbers stands for itself. -/
theorem mapNumbers_eq_self_iff (j : Json) :
    j.mapNumbers f = j ↔ ∀ n ∈ j.numbers, f n = .num n := by
  induction j using induct with
  | null | bool | str => simp [mapNumbers, numbers]
  | num n => simp [mapNumbers, numbers]
  | arr items ih =>
    rw [mapNumbers, Json.arr.injEq, mapItems_eq, numbers, map_eq_self_iff]
    constructor
    · intro h n hn
      obtain ⟨j, hj, hn⟩ := (mem_itemNumbers items).1 hn
      exact (ih j hj).1 (h j hj) n hn
    · intro h j hj
      exact (ih j hj).2 fun n hn => h n ((mem_itemNumbers items).2 ⟨j, hj, hn⟩)
  | obj members ih =>
    rw [mapNumbers, Json.obj.injEq, mapMembers_eq, numbers, map_eq_self_iff]
    constructor
    · intro h n hn
      obtain ⟨m, hm, hn⟩ := (mem_memberNumbers members).1 hn
      exact (ih m hm).1 (congrArg Prod.snd (h m hm)) n hn
    · intro h m hm
      have := (ih m hm).2 fun n hn => h n ((mem_memberNumbers members).2 ⟨m, hm, hn⟩)
      rw [this]

end

/-- What a machine can hold has only numbers that it can hold. -/
theorem Bounded.number {j : Json} (hb : j.Bounded) {n : Number} (hn : n ∈ j.numbers) :
    (Json.num n).Bounded := by
  induction j using Json.induct with
  | null | bool | str => cases hn
  | num m => rwa [List.mem_singleton.1 hn]
  | arr items ih =>
    obtain ⟨j, hj, hn⟩ := (mem_itemNumbers items).1 hn
    exact ih j hj ((boundedItems_iff items).1 hb.2 j hj) hn
  | obj members ih =>
    obtain ⟨m, hm, hn⟩ := (mem_memberNumbers members).1 hn
    exact ih m hm ((boundedMembers_iff members).1 hb m hm) hn

/-! ## Members in order -/

/-- A member whose name is greater than all others goes to the end. -/
theorem insertMember_last {key : String} {value : Json} :
    ∀ {members : List (String × Json)}, (∀ m ∈ members, m.1 < key) →
      insertMember key value members = members ++ [(key, value)]
  | [], _ => rfl
  | (k, v) :: rest, h => by
    have hk : k < key := h (k, v) (by simp)
    have hne : key ≠ k := by
      rintro rfl
      exact String.lt_irrefl _ hk
    rw [insertMember, if_neg (String.lt_asymm hk), if_neg hne,
      insertMember_last fun m hm => h m (List.mem_cons_of_mem _ hm), List.cons_append]

/-- Members in order are taken as they are. -/
theorem sortMembers_of_sorted {members : List (String × Json)} (h : Sorted members) :
    sortMembers members = members := by
  -- The prefix that is already in place grows from the left.
  have key : ∀ (rest acc : List (String × Json)), Sorted (acc ++ rest) →
      rest.foldl (fun acc m => insertMember m.1 m.2 acc) acc = acc ++ rest := by
    intro rest
    induction rest with
    | nil => intro acc _; simp
    | cons m rest ih =>
      obtain ⟨k, v⟩ := m
      intro acc hs
      have hlast : ∀ a ∈ acc, a.1 < k := fun a ha =>
        (List.pairwise_append.1 hs).2.2 a ha (k, v) (by simp)
      show rest.foldl _ (insertMember k v acc) = acc ++ (k, v) :: rest
      rw [insertMember_last hlast, ih _ (by simpa using hs)]
      simp
  exact key members [] h

theorem sorted_mapMembers {f : Number → Json} {members : List (String × Json)}
    (h : Sorted members) : Sorted (mapMembers f members) := by
  rw [mapMembers_eq]
  exact List.pairwise_map.2 h

end ClusterScript.Json
