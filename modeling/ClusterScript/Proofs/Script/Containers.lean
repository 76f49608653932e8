import ClusterScript.Proofs.Script.Building

/-!
# The containers of a tree

A place in a tree is given by positions, from the outside in: at which part of
the root, at which part of that, and so on. The lists and objects of a tree
are listed by going through it, each before those inside of it. That is the
order of their places as words: a word comes before its continuations, and
words are compared at the first position where they differ.

* `at?`: what stands at a place.
* `containers`: the containers with their places.
* `mem_containers_iff`: they are all that there are.
* `containers_ascending`: their places ascend, so none is listed twice.
-/
namespace ClusterScript.Json

open Script (Value Shape)

/-- What stands at a place, which is given by the positions of parts from the outside in. -/
def at? : Json → List Nat → Option Json
  | j, [] => some j
  | j, n :: place => j.parts[n]?.bind fun p => p.2.at? place

/-- A container with its place. -/
structure Container where
  place : List Nat
  shape : Shape

mutual

/-- The containers of a tree at a place, each before those inside of it. -/
def containers (place : List Nat) : Json → List Container
  | .obj members => ⟨place, .map⟩ :: memberContainers place 0 members
  | .arr items => ⟨place, .array⟩ :: itemContainers place 0 items
  | _ => []

def memberContainers (place : List Nat) (n : Nat) : List (String × Json) → List Container
  | [] => []
  | (_, j) :: rest => containers (place ++ [n]) j ++ memberContainers place (n + 1) rest

def itemContainers (place : List Nat) (n : Nat) : List Json → List Container
  | [] => []
  | j :: rest => containers (place ++ [n]) j ++ itemContainers place (n + 1) rest

end

/-- The containers of parts, the first of them at position `n`. -/
def partContainers (place : List Nat) (n : Nat) : List (Value × Json) → List Container
  | [] => []
  | p :: rest => containers (place ++ [n]) p.2 ++ partContainers place (n + 1) rest

section

variable {j : Json} {place : List Nat} {c : Container}

theorem memberContainers_eq : ∀ (members : List (String × Json)) (n : Nat),
    memberContainers place n members = partContainers place n (Script.named members)
  | [], _ => rfl
  | (k, j) :: rest, n => by
    rw [memberContainers, memberContainers_eq rest]
    rfl

theorem itemContainers_eq : ∀ (items : List Json) (n start : Nat),
    itemContainers place n items = partContainers place n (Script.Table.numbered start items)
  | [], _, _ => rfl
  | j :: rest, n, start => by
    rw [itemContainers, itemContainers_eq rest (n + 1) (start + 1)]
    rfl

theorem containers_scalar (h : j.shape? = none) : containers place j = [] := by
  cases j with
  | arr => cases h
  | obj => cases h
  | _ => rfl

theorem containers_container {s : Shape} (h : j.shape? = some s) :
    containers place j = ⟨place, s⟩ :: partContainers place 0 j.parts := by
  cases j with
  | arr items =>
    cases h
    rw [containers, itemContainers_eq items 0 1]
    rfl
  | obj members =>
    cases h
    rw [containers, memberContainers_eq]
    rfl
  | _ => cases h

theorem mem_partContainers : ∀ {parts : List (Value × Json)} {n : Nat},
    c ∈ partContainers place n parts ↔
      ∃ k p, parts[k]? = some p ∧ c ∈ containers (place ++ [n + k]) p.2
  | [], n => by simp [partContainers]
  | p :: rest, n => by
    rw [partContainers, List.mem_append, mem_partContainers]
    constructor
    · rintro (h | ⟨k, q, hq, h⟩)
      · exact ⟨0, p, rfl, h⟩
      · exact ⟨k + 1, q, hq, by rwa [show n + (k + 1) = n + 1 + k by omega]⟩
    · rintro ⟨k, q, hq, h⟩
      cases k with
      | zero =>
        cases hq
        exact .inl h
      | succ k => exact .inr ⟨k, q, hq, by rwa [show n + 1 + k = n + (k + 1) by omega]⟩

theorem parts_scalar (h : j.shape? = none) : j.parts = [] := by
  cases j with
  | arr => cases h
  | obj => cases h
  | _ => rfl

/-- The containers are what stands at some place and has a shape. -/
theorem mem_containers_iff :
    c ∈ containers place j ↔
      ∃ inside part, c.place = place ++ inside ∧ j.at? inside = some part ∧
        part.shape? = some c.shape := by
  induction j using induct_parts generalizing place with
  | scalar j hscalar =>
    rw [containers_scalar hscalar]
    constructor
    · intro h
      cases h
    · rintro ⟨inside, part, -, hat, hshape⟩
      cases inside with
      | nil =>
        cases hat
        rw [hscalar] at hshape
        cases hshape
      | cons n inside =>
        rw [at?, parts_scalar hscalar] at hat
        cases hat
  | container j s hs ih =>
    rw [containers_container hs, List.mem_cons, mem_partContainers]
    constructor
    · rintro (rfl | ⟨n, p, hp, h⟩)
      · exact ⟨[], j, by simp, rfl, hs⟩
      · obtain ⟨inside, part, hplace, hat, hshape⟩ := (ih p (List.mem_of_getElem? hp)).1 h
        rw [Nat.zero_add] at hplace
        refine ⟨n :: inside, part, by simp [hplace], ?_, hshape⟩
        rw [at?, hp]
        exact hat
    · rintro ⟨inside, part, hplace, hat, hshape⟩
      cases inside with
      | nil =>
        cases hat
        rw [hs, Option.some.injEq] at hshape
        left
        cases c
        simp_all
      | cons n inside =>
        rw [at?, Option.bind_eq_some_iff] at hat
        obtain ⟨p, hp, hat⟩ := hat
        refine .inr ⟨n, p, hp, (ih p (List.mem_of_getElem? hp)).2 ⟨inside, part, ?_, hat, hshape⟩⟩
        simp [hplace]

/-- Places ascend: what stands inside comes behind, and a part before the next one. -/
theorem containers_ascending (j : Json) (place : List Nat) :
    (containers place j).Pairwise fun c d => c.place < d.place := by
  induction j using induct_parts generalizing place with
  | scalar j hscalar =>
    rw [containers_scalar hscalar]
    exact .nil
  | container j s hs ih =>
    have hparts : ∀ (parts : List (Value × Json)) (n : Nat), (∀ p ∈ parts, p ∈ j.parts) →
        (partContainers place n parts).Pairwise fun c d => c.place < d.place := by
      intro parts
      induction parts with
      | nil => exact fun _ _ => .nil
      | cons p rest ihRest =>
        intro n hmem
        refine List.pairwise_append.2 ⟨ih p (hmem p (by simp)) _,
          ihRest (n + 1) (fun q hq => hmem q (by simp [hq])), fun c hc d hd => ?_⟩
        obtain ⟨inside, -, hc, -⟩ := mem_containers_iff.1 hc
        obtain ⟨k, q, -, hd⟩ := mem_partContainers.1 hd
        obtain ⟨inside', -, hd, -⟩ := mem_containers_iff.1 hd
        rw [hc, hd, List.append_assoc, List.append_assoc]
        exact List.append_left_lt (List.cons_lt_cons_iff.2 (.inl (by omega)))
    rw [containers_container hs]
    refine List.pairwise_cons.2 ⟨fun c hc => ?_, hparts j.parts 0 fun _ hp => hp⟩
    obtain ⟨k, q, -, hc⟩ := mem_partContainers.1 hc
    obtain ⟨inside, -, hc, -⟩ := mem_containers_iff.1 hc
    rw [hc, List.append_assoc]
    have hlt : place ++ [] < place ++ ([0 + k] ++ inside) :=
      List.append_left_lt (List.nil_lt_cons (0 + k) inside)
    rwa [List.append_nil] at hlt

example : (containers [] (.obj [("a", .arr [.null, .obj []]), ("b", .obj [])])).map
    Container.place = [[], [0], [0, 1], [1]] := rfl

end

end ClusterScript.Json
