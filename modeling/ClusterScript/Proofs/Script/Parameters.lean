import ClusterScript.Script.Params

/-!
# What parameter tables say

Reading a table of parameters goes through its entries in their order. What
comes out says the same as the table, key by key: a value is that of an entry
whose key reads as its name, and where there is none the table has no such
entry.

* `Entries.Gives`, `Entries.Tells`: what a table has at a text.
* `Entries.Spells`: entries with scalars, and the string forms of these.
* `ParamSchema.parse_tells`: what is read is what the table says.
* `string?_tells`, `map?_tells`, `list?_tells`: the same for a parameter of a type.
* `parseValue_string`, `parseValue_map`, `parseValue_list`: what the types of
  parameters accept.
-/
namespace ClusterScript.Script

namespace Entries

/-- There is a value at a key that reads as a text. -/
def Gives (entries : List (Value × Value)) (key : String) (v : Value) : Prop :=
  ∃ k, (k, v) ∈ entries ∧ k.hostText = .ok (some key)

/-- A value at a key is such; or there is none, and something else holds. -/
def Tells (entries : List (Value × Value)) (key : String) (such : Value → Prop)
    (otherwise : Prop) : Prop :=
  (∃ v, Gives entries key v ∧ such v) ∨ (∀ v, ¬ Gives entries key v) ∧ otherwise

/-- Entries with scalars have these string forms, in ascending order of their keys. -/
structure Spells (entries : List (Value × Value)) (members : List (String × String)) : Prop where
  ascending : members.Pairwise fun a b => a.1 < b.1
  tells : ∀ key, Tells entries key (fun v => ∃ s, scalarText v = .ok (some s) ∧
    members.lookup key = some s) (members.lookup key = none)

section

variable {entries : List (Value × Value)} {key name : String} {k v : Value}
variable {such such' : Value → Prop} {otherwise otherwise' : Prop}

theorem Tells.imp (h : Tells entries key such otherwise) (hsuch : ∀ v, such v → such' v)
    (hotherwise : otherwise → otherwise') : Tells entries key such' otherwise' := by
  rcases h with ⟨v, hv, hs⟩ | ⟨hnone, h⟩
  · exact .inl ⟨v, hv, hsuch v hs⟩
  · exact .inr ⟨hnone, hotherwise h⟩

theorem Tells.nil (h : otherwise) : Tells [] key such otherwise :=
  .inr ⟨fun _ ⟨_, hmem, _⟩ => List.not_mem_nil hmem, h⟩

/-- An entry counts where no later one has the same key. -/
theorem Tells.cons (hk : k.hostText = .ok (some name)) (h : Tells entries key such otherwise)
    (hsame : key = name → otherwise → such v) (hother : key ≠ name → otherwise → otherwise') :
    Tells ((k, v) :: entries) key such otherwise' := by
  rcases h with ⟨u, ⟨k', hmem, hk'⟩, hu⟩ | ⟨hnone, hotherwise⟩
  · exact .inl ⟨u, ⟨k', List.mem_cons_of_mem _ hmem, hk'⟩, hu⟩
  · by_cases hname : key = name
    · subst hname
      exact .inl ⟨v, ⟨k, List.mem_cons_self, hk⟩, hsame rfl hotherwise⟩
    · refine .inr ⟨?_, hother hname hotherwise⟩
      rintro u ⟨k', hmem, hk'⟩
      rcases List.mem_cons.1 hmem with heq | hmem
      · cases heq
        rw [hk] at hk'
        cases hk'
        exact hname rfl
      · exact hnone u ⟨k', hmem, hk'⟩

end

end Entries

/-! ## Members by name -/

section

variable {α : Type} {name other : String} {value : α}

theorem lookup_insertByName_self : ∀ members : List (String × α),
    (insertByName name value members).lookup name = some value
  | [] => List.lookup_cons_self
  | (k, v) :: rest => by
    rw [insertByName]
    split
    · exact List.lookup_cons_self
    · split
      · exact List.lookup_cons_self
      · next hne =>
        have hbeq : (name == k) = false := beq_eq_false_iff_ne.2 hne
        rw [List.lookup_cons, hbeq, lookup_insertByName_self rest]

theorem lookup_insertByName_ne (h : other ≠ name) : ∀ members : List (String × α),
    (insertByName name value members).lookup other = members.lookup other
  | [] => by simp [insertByName, h]
  | (k, v) :: rest => by
    have hbeq : (other == name) = false := beq_eq_false_iff_ne.2 h
    rw [insertByName]
    split
    · rw [List.lookup_cons, hbeq]
    · split
      · next heq =>
        subst heq
        rw [List.lookup_cons, List.lookup_cons, hbeq]
      · rw [List.lookup_cons, List.lookup_cons, lookup_insertByName_ne h rest]

theorem mem_insertByName {p : String × α} : ∀ {members : List (String × α)},
    p ∈ insertByName name value members → p = (name, value) ∨ p ∈ members
  | [], h => .inl (List.mem_singleton.1 h)
  | (k, v) :: rest, h => by
    rw [insertByName] at h
    split at h
    · exact List.mem_cons.1 h
    · split at h
      · exact (List.mem_cons.1 h).imp_right (List.mem_cons_of_mem _)
      · rcases List.mem_cons.1 h with rfl | h
        · exact .inr List.mem_cons_self
        · exact (mem_insertByName h).imp_right (List.mem_cons_of_mem _)

theorem ascending_insertByName {members : List (String × α)}
    (h : members.Pairwise fun a b => a.1 < b.1) :
    (insertByName name value members).Pairwise fun a b => a.1 < b.1 := by
  induction members with
  | nil => simp [insertByName]
  | cons head rest ih =>
    obtain ⟨hall, hrest⟩ := List.pairwise_cons.1 h
    rw [insertByName]
    split
    · next hlt =>
      refine List.pairwise_cons.2 ⟨fun p hp => ?_, h⟩
      rcases List.mem_cons.1 hp with rfl | hp
      · exact hlt
      · exact String.lt_trans hlt (hall p hp)
    · next hnlt =>
      split
      · next heq =>
        subst heq
        exact List.pairwise_cons.2 ⟨hall, hrest⟩
      · next hne =>
        refine List.pairwise_cons.2 ⟨fun p hp => ?_, ih hrest⟩
        rcases mem_insertByName hp with rfl | hp
        · exact ((Std.lt_trichotomy name head.1).resolve_left hnlt).resolve_left hne
        · exact hall p hp

end

/-! ## Reading entries -/

theorem bind_eq_ok {ε α β : Type} {x : Except ε α} {f : α → Except ε β} {b : β}
    (h : (x >>= f) = .ok b) : ∃ a, x = .ok a ∧ f a = .ok b := by
  cases x with
  | ok a => exact ⟨a, rfl, h⟩
  | error e => cases h

namespace ParamSchema

section

variable {tables : Array Table} {f : Fault}

theorem scalarOr_eq_ok {v : Value} {s : String} (h : scalarOr f v = .ok s) :
    scalarText v = .ok (some s) := by
  obtain ⟨found, htext, h⟩ := bind_eq_ok h
  cases found with
  | none => cases h
  | some s' =>
    cases h
    exact htext

/-- A map that is read says what its entries say, and what was there before. -/
theorem parseMap_tells : ∀ {entries : List (Value × Value)} {read members : List (String × String)},
    parseMap f entries read = .ok members → read.Pairwise (fun a b => a.1 < b.1) →
      members.Pairwise (fun a b => a.1 < b.1) ∧
        ∀ key, Entries.Tells entries key
          (fun v => ∃ s, scalarText v = .ok (some s) ∧ members.lookup key = some s)
          (members.lookup key = read.lookup key)
  | [], read, members, h, hread => by
    cases h
    exact ⟨hread, fun key => .nil rfl⟩
  | (k, v) :: rest, read, members, h, hread => by
    obtain ⟨found, hk, h⟩ := bind_eq_ok h
    cases found with
    | none => cases h
    | some name =>
      obtain ⟨s, hv, h⟩ := bind_eq_ok h
      obtain ⟨hascending, htells⟩ := parseMap_tells h (ascending_insertByName hread)
      refine ⟨hascending, fun key => (htells key).cons hk ?_ ?_⟩
      · rintro rfl hlookup
        exact ⟨s, scalarOr_eq_ok hv, hlookup.trans (lookup_insertByName_self read)⟩
      · intro hne hlookup
        exact hlookup.trans (lookup_insertByName_ne hne read)

theorem parseList_eq_ok : ∀ {values : List Value} {texts : List String},
    parseList f values = .ok texts → values.map scalarText = texts.map fun s => .ok (some s)
  | [], texts, h => by
    cases h
    rfl
  | v :: rest, texts, h => by
    obtain ⟨s, hv, h⟩ := bind_eq_ok h
    obtain ⟨more, hrest, h⟩ := bind_eq_ok h
    cases h
    rw [List.map_cons, List.map_cons, scalarOr_eq_ok hv, parseList_eq_ok hrest]

/-! ## Types of parameters -/

section

variable {key : String} {v : Value} {value : ParamValue}

theorem parseValue_string (h : parseValue tables key .string v = .ok value) :
    ∃ s, v.hostText = .ok (some s) ∧ value = .string s := by
  cases v with
  | text s =>
    cases h
    exact ⟨s, rfl, rfl⟩
  | bytes b =>
    obtain ⟨s, hs, h⟩ := bind_eq_ok h
    cases h
    exact ⟨s, scalarOr_eq_ok hs, rfl⟩
  | _ => cases h

theorem parseValue_map (h : parseValue tables key .stringMap v = .ok value) :
    ∃ id members, v = .table id ∧
      Entries.Spells (tables[id]?.getD .empty).entries members ∧ value = .map members := by
  cases v with
  | table id =>
    obtain ⟨members, hm, h⟩ := bind_eq_ok h
    cases h
    obtain ⟨hascending, htells⟩ := parseMap_tells hm .nil
    exact ⟨id, members, rfl, ⟨hascending, htells⟩, rfl⟩
  | _ => cases h

theorem parseValue_list (h : parseValue tables key .stringList v = .ok value) :
    ∃ id items, v = .table id ∧ (tables[id]?.getD .empty).sequence.map scalarText =
      items.map (fun s => .ok (some s)) ∧ value = .list items := by
  cases v with
  | table id =>
    simp only [parseValue] at h
    split at h
    · cases h
    · obtain ⟨items, hl, h⟩ := bind_eq_ok h
      cases h
      exact ⟨id, items, rfl, parseList_eq_ok hl, rfl⟩
  | _ => cases h

end

/-! ## Tables of parameters -/

section

variable {schema : ParamSchema} {params : Params}

theorem parseEntry_eq_ok {k v : Value} {key : String} {value : ParamValue}
    (h : parseEntry schema tables k v = .ok (key, value)) :
    k.hostText = .ok (some key) ∧ ∃ p, schema.keys.find? (fun p => p.name = key) = some p ∧
      parseValue tables key p.type v = .ok value := by
  obtain ⟨found, hk, h⟩ := bind_eq_ok h
  cases found with
  | none => cases h
  | some name =>
    dsimp only at h
    split at h
    · cases h
    · next p hp =>
      obtain ⟨value', hv, h⟩ := bind_eq_ok h
      cases h
      exact ⟨hk, p, hp, hv⟩

/-- Parameters that are read say what the entries say, and what was there before. -/
theorem parseEntries_tells : ∀ {entries : List (Value × Value)} {read : Params},
    parseEntries schema tables entries read = .ok params → ∀ key, Entries.Tells entries key
      (fun v => ∃ p value, schema.keys.find? (fun p => p.name = key) = some p ∧
        parseValue tables key p.type v = .ok value ∧ params.lookup key = some value)
      (params.lookup key = read.lookup key)
  | [], read, h, key => by
    cases h
    exact .nil rfl
  | (k, v) :: rest, read, h, key => by
    obtain ⟨⟨name, value⟩, hentry, h⟩ := bind_eq_ok h
    obtain ⟨hk, p, hp, hv⟩ := parseEntry_eq_ok hentry
    refine (parseEntries_tells h key).cons hk ?_ ?_
    · rintro rfl hlookup
      exact ⟨p, value, hp, hv, hlookup.trans (lookup_insertByName_self read)⟩
    · intro hne hlookup
      exact hlookup.trans (lookup_insertByName_ne hne read)

/-- **What is read of a table of parameters is what the table says**: for each parameter, the
value at its name, of its type; or there is none, and then it is none that has to be there. -/
theorem parse_tells {t : Table} (h : schema.parse tables t = .ok params) {p : ParamKey}
    (hp : schema.keys.find? (fun p' => p'.name = p.name) = some p) :
    Entries.Tells t.entries p.name
      (fun v => ∃ value, parseValue tables p.name p.type v = .ok value ∧
        params.lookup p.name = some value)
      (params.lookup p.name = none ∧ p.required = false) := by
  obtain ⟨read, hread, h⟩ := bind_eq_ok h
  split at h
  · cases h
  · next hmissing =>
    cases h
    refine (parseEntries_tells hread p.name).imp ?_ fun hlookup => ⟨hlookup, ?_⟩
    · rintro v ⟨p', value, hp', hv, hlookup⟩
      cases hp.symm.trans hp'
      exact ⟨value, hv, hlookup⟩
    · have hnone := List.find?_eq_none.1 (Option.map_eq_none_iff.1 hmissing) p
        (List.mem_of_find?_eq_some hp)
      rw [hlookup] at hnone
      simpa using hnone

/-! ## Parameters by type -/

theorem string?_tells {t : Table} {key : String} {required : Bool}
    (h : schema.parse tables t = .ok params)
    (hp : schema.keys.find? (fun p => p.name = key) = some ⟨key, .string, required⟩) :
    Entries.Tells t.entries key
      (fun v => ∃ s, v.hostText = .ok (some s) ∧ params.string? key = some s)
      (params.string? key = none ∧ required = false) := by
  refine (parse_tells (p := ⟨key, .string, required⟩) h hp).imp ?_
    (And.imp_left fun hlookup => by simp only [Params.string?, hlookup])
  rintro v ⟨value, hv, hlookup⟩
  obtain ⟨s, hs, rfl⟩ := parseValue_string hv
  exact ⟨s, hs, by simp only [Params.string?, hlookup]⟩

theorem map?_tells {t : Table} {key : String} {required : Bool}
    (h : schema.parse tables t = .ok params)
    (hp : schema.keys.find? (fun p => p.name = key) = some ⟨key, .stringMap, required⟩) :
    Entries.Tells t.entries key
      (fun v => ∃ id members, v = .table id ∧
        Entries.Spells (tables[id]?.getD .empty).entries members ∧ params.map? key = some members)
      (params.map? key = none ∧ required = false) := by
  refine (parse_tells (p := ⟨key, .stringMap, required⟩) h hp).imp ?_
    (And.imp_left fun hlookup => by simp only [Params.map?, hlookup])
  rintro v ⟨value, hv, hlookup⟩
  obtain ⟨id, members, hid, hspells, rfl⟩ := parseValue_map hv
  exact ⟨id, members, hid, hspells, by simp only [Params.map?, hlookup]⟩

theorem list?_tells {t : Table} {key : String} {required : Bool}
    (h : schema.parse tables t = .ok params)
    (hp : schema.keys.find? (fun p => p.name = key) = some ⟨key, .stringList, required⟩) :
    Entries.Tells t.entries key
      (fun v => ∃ id items, v = .table id ∧ (tables[id]?.getD .empty).sequence.map scalarText =
        items.map (fun s => .ok (some s)) ∧ params.list? key = some items)
      (params.list? key = none ∧ required = false) := by
  refine (parse_tells (p := ⟨key, .stringList, required⟩) h hp).imp ?_
    (And.imp_left fun hlookup => by simp only [Params.list?, hlookup])
  rintro v ⟨value, hv, hlookup⟩
  obtain ⟨id, items, hid, hitems, rfl⟩ := parseValue_list hv
  exact ⟨id, items, hid, hitems, by simp only [Params.list?, hlookup]⟩

end

end

end ParamSchema

end ClusterScript.Script
