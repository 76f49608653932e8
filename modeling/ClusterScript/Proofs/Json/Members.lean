import ClusterScript.Json.Basic

/-!
# Members of objects

Setting a member of an object gives that member the value and leaves the
other members as they were; so does dropping one.

* `get_put_self`, `get_put_ne`: a member after one was set.
* `get_remove_ne`: a member after another was dropped.
* `get_ofMembers`: of members of one name, the last counts.
-/
namespace ClusterScript.Json

theorem beq_str {j : Json} {s : String} : (j == .str s) = true ↔ j = .str s := by
  cases j with
  | str t =>
    show (t == s) = true ↔ _
    rw [beq_iff_eq, Json.str.injEq]
  | _ => exact ⟨fun h => (Bool.false_ne_true h).elim, fun h => by cases h⟩

section

variable {key other : String} {value : Json}

theorem lookup_insertMember_self : ∀ members : List (String × Json),
    (insertMember key value members).lookup key = some value
  | [] => List.lookup_cons_self
  | (k, v) :: rest => by
    rw [insertMember]
    split
    · exact List.lookup_cons_self
    · split
      · exact List.lookup_cons_self
      · next hne =>
        have hbeq : (key == k) = false := beq_eq_false_iff_ne.2 hne
        rw [List.lookup_cons, hbeq, lookup_insertMember_self rest]

theorem lookup_insertMember_ne (h : other ≠ key) : ∀ members : List (String × Json),
    (insertMember key value members).lookup other = members.lookup other
  | [] => by simp [insertMember, h]
  | (k, v) :: rest => by
    have hbeq : (other == key) = false := beq_eq_false_iff_ne.2 h
    rw [insertMember]
    split
    · rw [List.lookup_cons, hbeq]
    · split
      · next heq =>
        subst heq
        rw [List.lookup_cons, List.lookup_cons, hbeq]
      · rw [List.lookup_cons, List.lookup_cons, lookup_insertMember_ne h rest]

theorem get_put_self (members : List (String × Json)) :
    ((Json.obj members).put key value).get key = value := by
  simp [put, get, lookup_insertMember_self]

theorem get_put_ne (h : other ≠ key) (j : Json) : (j.put key value).get other = j.get other := by
  cases j with
  | obj members => simp [put, get, lookup_insertMember_ne h]
  | _ => rfl

theorem lookup_filter_ne (h : other ≠ key) : ∀ members : List (String × Json),
    (members.filter fun (k, _) => k ≠ key).lookup other = members.lookup other
  | [] => rfl
  | (k, v) :: rest => by
    by_cases hk : k = key
    · have hbeq : (other == k) = false := beq_eq_false_iff_ne.2 (hk ▸ h)
      rw [List.filter_cons_of_neg (by simpa using hk), List.lookup_cons, hbeq]
      exact lookup_filter_ne h rest
    · rw [List.filter_cons_of_pos (by simpa using hk), List.lookup_cons, List.lookup_cons,
        lookup_filter_ne h rest]

theorem get_remove_ne (h : other ≠ key) (j : Json) : (j.remove key).get other = j.get other := by
  cases j with
  | obj members => rw [remove, get, get, lookup_filter_ne h]
  | _ => rfl

/-! ## Objects that are made of members -/

theorem lookup_foldl_insertMember : ∀ (members acc : List (String × Json)),
    (members.foldl (fun acc (k, v) => insertMember k v acc) acc).lookup key =
      (members.reverse.lookup key).or (acc.lookup key)
  | [], acc => by simp
  | (k, v) :: rest, acc => by
    rw [List.foldl_cons, lookup_foldl_insertMember rest, List.reverse_cons, List.lookup_append,
      Option.or_assoc]
    by_cases hk : key = k
    · subst hk
      rw [lookup_insertMember_self, List.lookup_cons_self, Option.some_or]
    · have hbeq : (key == k) = false := beq_eq_false_iff_ne.2 hk
      rw [lookup_insertMember_ne hk, List.lookup_cons, hbeq, List.lookup_nil, Option.none_or]

theorem get_ofMembers (members : List (String × Json)) :
    (ofMembers members).get key = (members.reverse.lookup key).getD .null := by
  rw [ofMembers, get, sortMembers, lookup_foldl_insertMember, List.lookup_nil, Option.or_none]

end

/-! ## Looking up by distinct names -/

section

variable {α β : Type} {key : String}

theorem lookup_map_snd (f : α → β) : ∀ members : List (String × α),
    (members.map fun p => (p.1, f p.2)).lookup key = (members.lookup key).map f
  | [] => rfl
  | (k, v) :: rest => by
    rw [List.map_cons, List.lookup_cons, List.lookup_cons, lookup_map_snd f rest]
    cases key == k <;> rfl

theorem lookup_eq_none_of_forall {members : List (String × α)} (h : ∀ p ∈ members, p.1 ≠ key) :
    members.lookup key = none := by
  rw [List.lookup_eq_none_iff]
  exact fun p hp => bne_iff_ne.2 (h p hp).symm

/-- Where no name comes twice, the order does not matter. -/
theorem lookup_reverse : ∀ {members : List (String × α)},
    members.Pairwise (fun a b => a.1 ≠ b.1) → members.reverse.lookup key = members.lookup key
  | [], _ => rfl
  | (k, v) :: rest, h => by
    obtain ⟨hfirst, hrest⟩ := List.pairwise_cons.1 h
    rw [List.reverse_cons, List.lookup_append, lookup_reverse hrest, List.lookup_cons,
      List.lookup_cons, List.lookup_nil]
    by_cases hk : key = k
    · subst hk
      rw [lookup_eq_none_of_forall fun p hp => (hfirst p hp).symm]
      simp
    · have hbeq : (key == k) = false := beq_eq_false_iff_ne.2 hk
      simp [hbeq]

end

end ClusterScript.Json
