import ClusterScript.Proofs.Script.Parameters
import ClusterScript.Proofs.Script.TableOrder

/-!
# Which tables of parameters are accepted

A schema accepts a table exactly if each of its keys is one that the schema
lists, each value has the type of its key, and the keys that have to be there
are. Tables have no order: whether one is accepted, and what is then read,
is the same for every order in which its entries and those of the tables in
it are visited. Only which fault is met first depends on the order.

* `ParamType.Accepts`, `ParamSchema.Admits`: what is accepted, said of the
  table and not of the reading.
* `ParamType.Gives`: the parameter that a value stands for.
* `parse_any_order`: acceptance, what is read, and that no order matters.
-/
namespace ClusterScript.Script

/-- A string, a number or a truth value. -/
def Value.IsScalar : Value → Prop
  | .text _ | .bytes _ | .int _ | .float _ | .bool _ => True
  | _ => False

/-- What a table may hold that has texts for strings: not nil, and no string that is not a text. -/
def Value.IsTextual : Value → Prop
  | .nil | .bytes _ => False
  | _ => True

instance : DecidablePred Value.IsTextual
  | .nil | .bytes _ => inferInstanceAs (Decidable False)
  | .bool _ | .int _ | .float _ | .text _ | .marker | .foreign | .table _ | .closure _
  | .host _ | .instance _ | .fault _ => inferInstanceAs (Decidable True)

def Table.Textual (t : Table) : Prop := ∀ e ∈ t.entries, e.1.IsTextual ∧ e.2.IsTextual

instance (t : Table) : Decidable t.Textual :=
  inferInstanceAs (Decidable (∀ e ∈ t.entries, e.1.IsTextual ∧ e.2.IsTextual))

/-- The entries of a table on the heap. -/
def entriesAt (tables : Array Table) (id : Nat) : List (Value × Value) :=
  (tables[id]?.getD .empty).entries

namespace ParamType

/-- What a type of parameters accepts. The keys of a list are places; in a table without holes
these are then the first ones. -/
def Accepts (tables : Array Table) : ParamType → Value → Prop
  | .string, v => ∃ s, v = .text s
  | .stringOrBlock, v => (∃ s, v = .text s) ∨ v.isFunction = true
  | .stringMap, v => ∃ id, v = .table id ∧
      ∀ e ∈ entriesAt tables id, (∃ s, e.1 = .text s) ∧ e.2.IsScalar
  | .stringList, v => ∃ id, v = .table id ∧
      ∀ e ∈ entriesAt tables id, Table.IsPlace e.1 ∧ e.2.IsScalar

/-- The parameter that a value gives: strings and functions as they are, the members of a map
with their string forms by name, the elements of a list with theirs in the order of their
places. -/
def Gives (tables : Array Table) : ParamType → Value → ParamValue → Prop
  | .string, v, value => ∃ s, v = .text s ∧ value = .string s
  | .stringOrBlock, v, value =>
      (∃ s, v = .text s ∧ value = .string s) ∨ v.isFunction = true ∧ value = .block v
  | .stringMap, v, value => ∃ id members, v = .table id ∧ value = .map members ∧
      members.Pairwise (fun a b => a.1 < b.1) ∧
      ∀ key s, (key, s) ∈ members ↔
        ∃ u, (.text key, u) ∈ entriesAt tables id ∧ scalarText u = .ok (some s)
  | .stringList, v, value => ∃ id values items, v = .table id ∧ value = .list items ∧
      (entriesAt tables id).Perm (Table.numbered 1 values) ∧
      values.length < 0x8000000000000000 ∧
      values.map scalarText = items.map fun s => .ok (some s)

end ParamType

/-- What a schema accepts: listed keys with values of their types, and no required key missing. -/
structure ParamSchema.Admits (schema : ParamSchema) (tables : Array Table) (t : Table) : Prop where
  entries_fit : ∀ e ∈ t.entries, ∃ name p, e.1 = .text name ∧
    schema.keys.find? (fun p => p.name = name) = some p ∧ p.type.Accepts tables e.2
  required_there : ∀ p ∈ schema.keys, p.required = true → ∃ v, (.text p.name, v) ∈ t.entries

/-- A table as scripts hand it over, all its strings texts, and the tables in it without holes. -/
structure Table.Wellformed (tables : Array Table) (t : Table) : Prop where
  distinct : t.Distinct
  textual : t.Textual
  nested : ∀ e ∈ t.entries, ∀ id, e.2 = .table id →
    (tables[id]?.getD .empty).Distinct ∧ (tables[id]?.getD .empty).Textual ∧
      (tables[id]?.getD .empty).NoHoles

/-- The same entries in another order, in a table and in all tables on the heap. -/
structure Reordered (tables tables' : Array Table) (t t' : Table) : Prop where
  entries : t.entries.Perm t'.entries
  nested : ∀ id, (entriesAt tables id).Perm (entriesAt tables' id)

section

variable {α : Type} {v : Value} {s : String} {f : Fault}

/-! ## Scalars -/

theorem isScalar_of_scalarText (h : scalarText v = .ok (some s)) : v.IsScalar := by
  cases v with
  | text _ | bytes _ | int _ | float _ | bool _ => trivial
  | _ => cases h

theorem exists_scalarText (h : v.IsScalar) (htext : v.IsTextual) :
    ∃ s, scalarText v = .ok (some s) := by
  cases v with
  | text _ | int _ | float _ | bool _ => exact ⟨_, rfl⟩
  | bytes b => exact htext.elim
  | _ => exact h.elim

theorem text_of_hostText (htext : v.IsTextual) (h : v.hostText = .ok (some s)) : v = .text s := by
  cases v with
  | text _ => cases h; rfl
  | bytes b => exact htext.elim
  | _ => cases h

/-! ## Members in ascending order -/

/-- In ascending order a name is there once. -/
theorem mem_iff_lookup {key : String} {value : α} : ∀ {members : List (String × α)},
    members.Pairwise (fun a b => a.1 < b.1) →
      ((key, value) ∈ members ↔ members.lookup key = some value)
  | [], _ => by simp
  | (k, u) :: rest, h => by
    obtain ⟨hfirst, hrest⟩ := List.pairwise_cons.1 h
    rw [List.mem_cons, mem_iff_lookup hrest, List.lookup_cons]
    by_cases hk : key = k
    · subst hk
      have hlater : rest.lookup key = none :=
        List.lookup_eq_none_iff.2 fun p hp => by
          simpa using (String.ne_of_lt (hfirst p hp))
      simp [hlater, eq_comm]
    · have hbeq : (key == k) = false := beq_eq_false_iff_ne.2 hk
      simp [hbeq, hk]

/-- Members in ascending order are determined by what is among them. -/
theorem eq_of_ascending {members others : List (String × α)}
    (h : members.Pairwise fun a b => a.1 < b.1) (h' : others.Pairwise fun a b => a.1 < b.1)
    (hmem : ∀ p, p ∈ members ↔ p ∈ others) : members = others := by
  have hnodup : ∀ {l : List (String × α)}, l.Pairwise (fun a b => a.1 < b.1) → l.Nodup :=
    fun hl => hl.imp fun hlt heq => String.ne_of_lt hlt (congrArg Prod.fst heq)
  have hperm := (List.perm_ext_iff_of_nodup (hnodup h) (hnodup h')).2 hmem
  exact hperm.eq_of_pairwise (fun a b _ _ hab hba => absurd hab (String.lt_asymm hba)) h h'

/-- What is told of a key in two ways is told of one value, or there is none. -/
theorem Entries.Tells.agree {entries : List (Value × Value)} {key : String}
    {such such' : Value → Prop} {otherwise otherwise' : Prop}
    (h : Tells entries key such otherwise) (h' : Tells entries key such' otherwise')
    (hkeys : ∀ e ∈ entries, e.1.IsTextual) (hdistinct : (entries.map Prod.fst).Nodup) :
    (∃ v, (.text key, v) ∈ entries ∧ such v ∧ such' v) ∨ otherwise ∧ otherwise' := by
  rcases h with ⟨v, ⟨k, hmem, hk⟩, hv⟩ | ⟨hnone, ho⟩
  · cases text_of_hostText (hkeys _ hmem) hk
    rcases h' with ⟨u, ⟨k', hmem', hk'⟩, hu⟩ | ⟨hnone, -⟩
    · cases text_of_hostText (hkeys _ hmem') hk'
      have hsame := List.inj_on_of_nodup_map hdistinct hmem' hmem rfl
      cases hsame
      exact .inl ⟨v, hmem, hv, hu⟩
    · exact absurd ⟨_, hmem, rfl⟩ (hnone v)
  · rcases h' with ⟨u, ⟨k', hmem', hk'⟩, -⟩ | ⟨-, ho'⟩
    · exact absurd ⟨k', hmem', hk'⟩ (hnone u)
    · exact .inr ⟨ho, ho'⟩

/-- What is told of texts as keys is what the members are. -/
theorem mem_iff_of_tells {entries : List (Value × Value)} {members : List (String × α)}
    (reads : String → Value → α → Prop) (hkeys : ∀ e ∈ entries, e.1.IsTextual)
    (hreads : ∀ key v a b, reads key v a → reads key v b → a = b)
    (hdistinct : (entries.map Prod.fst).Nodup) (hascending : members.Pairwise fun a b => a.1 < b.1)
    (htells : ∀ key, Entries.Tells entries key
      (fun v => ∃ a, reads key v a ∧ members.lookup key = some a) (members.lookup key = none))
    (key : String) (a : α) :
    (key, a) ∈ members ↔ ∃ v, (.text key, v) ∈ entries ∧ reads key v a := by
  rw [mem_iff_lookup hascending]
  rcases htells key with ⟨v, ⟨k, hmem, hk⟩, b, hb, hlookup⟩ | ⟨hnone, hlookup⟩
  · have hkey := text_of_hostText (hkeys _ hmem) hk
    subst hkey
    rw [hlookup, Option.some_inj]
    constructor
    · rintro rfl
      exact ⟨v, hmem, hb⟩
    · rintro ⟨u, hu, ha⟩
      have hsame : u = v := by
        have := List.inj_on_of_nodup_map hdistinct hu hmem rfl
        exact congrArg Prod.snd this
      subst hsame
      exact hreads key u b a hb ha
  · rw [hlookup]
    constructor
    · intro h
      cases h
    · rintro ⟨u, hu, -⟩
      exact absurd ⟨_, hu, rfl⟩ (hnone u)

/-- Entries have their string forms in one way only. -/
theorem Entries.Spells.unique {entries : List (Value × Value)}
    {members others : List (String × String)} (h : Spells entries members)
    (h' : Spells entries others) (hkeys : ∀ e ∈ entries, e.1.IsTextual)
    (hdistinct : (entries.map Prod.fst).Nodup) : members = others := by
  have hreads : ∀ (_ : String) (v : Value) (a b : String), scalarText v = .ok (some a) →
      scalarText v = .ok (some b) → a = b := fun _ _ _ _ ha hb =>
    Option.some.inj (Except.ok.inj (ha.symm.trans hb))
  have hmem : ∀ {members}, Spells entries members → ∀ key a, (key, a) ∈ members ↔
      ∃ v, (.text key, v) ∈ entries ∧ scalarText v = .ok (some a) := fun h =>
    mem_iff_of_tells (fun _ v a => scalarText v = .ok (some a)) hkeys hreads hdistinct h.ascending
      h.tells
  exact eq_of_ascending h.ascending h'.ascending fun p =>
    (hmem h p.1 p.2).trans (hmem h' p.1 p.2).symm

end

namespace ParamSchema

section

variable {tables tables' : Array Table} {key : String} {v : Value} {value other : ParamValue}
variable {type : ParamType} {f : Fault}

/-! ## What reading accepts -/

theorem exists_scalarOr_iff (htext : v.IsTextual) :
    (∃ s, scalarOr f v = .ok s) ↔ v.IsScalar := by
  constructor
  · rintro ⟨s, hs⟩
    exact isScalar_of_scalarText (scalarOr_eq_ok hs)
  · intro hscalar
    obtain ⟨s, hs⟩ := exists_scalarText hscalar htext
    exact ⟨s, by rw [scalarOr, hs]; rfl⟩

theorem exists_parseMap_iff : ∀ {entries : List (Value × Value)},
    (∀ e ∈ entries, e.1.IsTextual ∧ e.2.IsTextual) → ∀ read,
      ((∃ members, parseMap f entries read = .ok members) ↔
        ∀ e ∈ entries, (∃ s, e.1 = .text s) ∧ e.2.IsScalar)
  | [], _, read => ⟨fun _ => by simp, fun _ => ⟨read, rfl⟩⟩
  | (k, v) :: rest, htextual, read => by
    obtain ⟨⟨hk, hv⟩, hrest⟩ := List.forall_mem_cons.1 htextual
    rw [List.forall_mem_cons, ← exists_scalarOr_iff (f := f) hv]
    constructor
    · rintro ⟨members, h⟩
      obtain ⟨found, hfound, h⟩ := bind_eq_ok h
      cases found with
      | none => cases h
      | some name =>
        obtain ⟨s, hs, h⟩ := bind_eq_ok h
        exact ⟨⟨⟨name, text_of_hostText hk hfound⟩, s, hs⟩,
          (exists_parseMap_iff hrest _).1 ⟨members, h⟩⟩
    · rintro ⟨⟨⟨name, rfl⟩, s, hs⟩, hall⟩
      obtain ⟨members, h⟩ := (exists_parseMap_iff hrest (insertByName name s read)).2 hall
      refine ⟨members, ?_⟩
      simp only [parseMap, Value.hostText, hs, h, bind, Except.bind]

theorem exists_parseList_iff : ∀ {values : List Value}, (∀ v ∈ values, v.IsTextual) →
    ((∃ texts, parseList f values = .ok texts) ↔ ∀ v ∈ values, v.IsScalar)
  | [], _ => ⟨fun _ => by simp, fun _ => ⟨[], rfl⟩⟩
  | v :: rest, htextual => by
    obtain ⟨hv, hrest⟩ := List.forall_mem_cons.1 htextual
    rw [List.forall_mem_cons, ← exists_scalarOr_iff (f := f) hv, ← exists_parseList_iff hrest]
    constructor
    · rintro ⟨texts, h⟩
      obtain ⟨s, hs, h⟩ := bind_eq_ok h
      obtain ⟨more, hmore, -⟩ := bind_eq_ok h
      exact ⟨⟨s, hs⟩, more, hmore⟩
    · rintro ⟨⟨s, hs⟩, more, hmore⟩
      exact ⟨s :: more, by simp only [parseList, hs, hmore, bind, Except.bind, pure, Except.pure]⟩

/-- A list is read exactly if the keys are places and the values scalars. -/
theorem exists_parseList_sequence_iff {t : Table} (hdistinct : t.Distinct) (htextual : t.Textual)
    (hholes : t.NoHoles) :
    (t.hasOtherKeys = false ∧ ∃ texts, parseList f t.sequence = .ok texts) ↔
      ∀ e ∈ t.entries, Table.IsPlace e.1 ∧ e.2.IsScalar := by
  have hsequence : ∀ v ∈ t.sequence, v.IsTextual := by
    intro v hv
    obtain ⟨key, hmem⟩ := Table.exists_key_of_mem_sequence hv
    exact (htextual _ hmem).2
  have hnil : ∀ e ∈ t.entries, e.2 ≠ .nil := by
    intro e he heq
    have htext := (htextual e he).2
    rw [heq] at htext
    exact htext
  rw [exists_parseList_iff hsequence]
  constructor
  · rintro ⟨hothers, hscalars⟩ e he
    have hin : Table.inSequence t.length e.1 = true := by
      simpa using List.any_eq_false.1 hothers e he
    obtain ⟨n, hpos, hn, -, hkey⟩ := Table.exists_place_of_inSequence hin
    refine ⟨⟨n, hpos, hn, hkey⟩, hscalars _ ?_⟩
    exact hholes.mem_sequence hdistinct hnil hpos hn (hkey ▸ he)
  · intro hall
    obtain ⟨values, hperm, hlen⟩ :=
      Table.exists_numbered hdistinct hholes fun e he => (hall e he).1
    have hscalars : ∀ v ∈ values, v.IsScalar := by
      intro v hv
      obtain ⟨key, hmem⟩ := Table.exists_key_of_mem hv
      exact (hall _ (hperm.symm.subset hmem)).2
    obtain ⟨hsequence, hothers⟩ := Table.sequence_of_numbered hdistinct hperm hlen
      fun v hv heq => by
        have := hscalars v hv
        rw [heq] at this
        exact this
    exact ⟨hothers, hsequence ▸ hscalars⟩

/-- Reading succeeds on exactly what the type accepts. -/
theorem exists_parseValue_iff (htext : v.IsTextual)
    (hnested : ∀ id, v = .table id → (tables[id]?.getD .empty).Distinct ∧
      (tables[id]?.getD .empty).Textual ∧ (tables[id]?.getD .empty).NoHoles) :
    (∃ value, parseValue tables key type v = .ok value) ↔ type.Accepts tables v := by
  cases type with
  | string =>
    constructor
    · rintro ⟨value, h⟩
      obtain ⟨s, hs, -⟩ := parseValue_string h
      exact ⟨s, text_of_hostText htext hs⟩
    · rintro ⟨s, rfl⟩
      exact ⟨_, rfl⟩
  | stringOrBlock =>
    constructor
    · rintro ⟨value, h⟩
      cases v with
      | text s => exact .inl ⟨s, rfl⟩
      | bytes b => exact htext.elim
      | closure _ | host _ => exact .inr rfl
      | _ => cases h
    · rintro (⟨s, rfl⟩ | hfunction)
      · exact ⟨_, rfl⟩
      · cases v with
        | closure _ | host _ => exact ⟨_, rfl⟩
        | _ => cases hfunction
  | stringMap =>
    constructor
    · rintro ⟨value, h⟩
      cases v with
      | table id =>
        obtain ⟨members, hm, -⟩ := bind_eq_ok h
        exact ⟨id, rfl, (exists_parseMap_iff (hnested id rfl).2.1 []).1 ⟨members, hm⟩⟩
      | _ => cases h
    · rintro ⟨id, rfl, hall⟩
      obtain ⟨members, hm⟩ := (exists_parseMap_iff (f := mismatch key .stringMap)
        (hnested id rfl).2.1 []).2 hall
      exact ⟨.map members, by simp only [parseValue, hm, bind, Except.bind, pure, Except.pure]⟩
  | stringList =>
    constructor
    · rintro ⟨value, h⟩
      cases v with
      | table id =>
        obtain ⟨hdistinct, htextual, hholes⟩ := hnested id rfl
        simp only [parseValue] at h
        split at h
        · cases h
        · next hothers =>
          obtain ⟨items, hl, -⟩ := bind_eq_ok h
          exact ⟨id, rfl, (exists_parseList_sequence_iff hdistinct htextual hholes).1
            ⟨by simpa using hothers, items, hl⟩⟩
      | _ => cases h
    · rintro ⟨id, rfl, hall⟩
      obtain ⟨hdistinct, htextual, hholes⟩ := hnested id rfl
      obtain ⟨hothers, items, hl⟩ := (exists_parseList_sequence_iff
        (f := mismatch key .stringList) hdistinct htextual hholes).2 hall
      exact ⟨.list items, by simp [parseValue, hothers, hl, bind, Except.bind, pure, Except.pure]⟩

/-! ## What is read -/

/-- What is read is what the value gives. -/
theorem gives_of_parseValue (htext : v.IsTextual)
    (hnested : ∀ id, v = .table id → (tables[id]?.getD .empty).Distinct ∧
      (tables[id]?.getD .empty).Textual ∧ (tables[id]?.getD .empty).NoHoles)
    (h : parseValue tables key type v = .ok value) : type.Gives tables v value := by
  cases type with
  | string =>
    obtain ⟨s, hs, rfl⟩ := parseValue_string h
    exact ⟨s, text_of_hostText htext hs, rfl⟩
  | stringOrBlock =>
    cases v with
    | text s =>
      cases h
      exact .inl ⟨s, rfl, rfl⟩
    | bytes b => exact htext.elim
    | closure _ | host _ =>
      cases h
      exact .inr ⟨rfl, rfl⟩
    | _ => cases h
  | stringMap =>
    obtain ⟨id, members, rfl, ⟨hascending, htells⟩, rfl⟩ := parseValue_map h
    obtain ⟨hdistinct, htextual, -⟩ := hnested id rfl
    refine ⟨id, members, rfl, rfl, hascending, ?_⟩
    refine mem_iff_of_tells (fun _ u s => scalarText u = .ok (some s))
      (fun e he => (htextual e he).1) (fun _ u a b ha hb => ?_) hdistinct hascending htells
    exact Option.some.inj (Except.ok.inj (ha.symm.trans hb))
  | stringList =>
    obtain ⟨id, items, rfl, hitems, rfl⟩ := parseValue_list h
    obtain ⟨hdistinct, htextual, hholes⟩ := hnested id rfl
    obtain ⟨id', hid, hall⟩ := (exists_parseValue_iff htext hnested).1 ⟨_, h⟩
    cases hid
    obtain ⟨values, hperm, hlen⟩ :=
      Table.exists_numbered hdistinct hholes fun e he => (hall e he).1
    have hnil : ∀ v ∈ values, v ≠ .nil := by
      rintro v hv rfl
      obtain ⟨place, hmem⟩ := Table.exists_key_of_mem hv
      exact (hall _ (hperm.symm.subset hmem)).2
    rw [(Table.sequence_of_numbered hdistinct hperm hlen hnil).1] at hitems
    exact ⟨id, values, items, rfl, rfl, hperm, hlen, hitems⟩

/-- A value gives one parameter of a type. -/
theorem gives_unique (hnested : ∀ id, v = .table id → (tables[id]?.getD .empty).Distinct)
    (h : type.Gives tables v value) (h' : type.Gives tables v other) : value = other := by
  cases type with
  | string =>
    obtain ⟨s, rfl, rfl⟩ := h
    obtain ⟨s', hs, rfl⟩ := h'
    cases hs
    rfl
  | stringOrBlock =>
    rcases h with ⟨s, rfl, rfl⟩ | ⟨hfunction, rfl⟩
    · rcases h' with ⟨s', hs, rfl⟩ | ⟨hfunction, -⟩
      · cases hs
        rfl
      · cases hfunction
    · rcases h' with ⟨s', rfl, -⟩ | ⟨-, rfl⟩
      · cases hfunction
      · rfl
  | stringMap =>
    obtain ⟨id, members, rfl, rfl, hascending, hmem⟩ := h
    obtain ⟨id', members', hid, rfl, hascending', hmem'⟩ := h'
    cases hid
    rw [eq_of_ascending hascending hascending' fun p => (hmem p.1 p.2).trans (hmem' p.1 p.2).symm]
  | stringList =>
    obtain ⟨id, values, items, rfl, rfl, hperm, hlen, hitems⟩ := h
    obtain ⟨id', values', items', hid, rfl, hperm', hlen', hitems'⟩ := h'
    cases hid
    have hsequence : ∀ {values : List Value} {items : List String},
        (entriesAt tables id).Perm (Table.numbered 1 values) →
        values.length < 0x8000000000000000 →
        values.map scalarText = items.map (fun s => .ok (some s)) →
        (tables[id]?.getD .empty).sequence = values := by
      intro values items hperm hlen hitems
      refine (Table.sequence_of_numbered (hnested id rfl) hperm hlen ?_).1
      rintro v hv rfl
      have hnil : scalarText .nil ∈ values.map scalarText := List.mem_map_of_mem hv
      rw [hitems] at hnil
      obtain ⟨s, -, hs⟩ := List.mem_map.1 hnil
      cases hs
    have hvalues : values = values' :=
      (hsequence hperm hlen hitems).symm.trans (hsequence hperm' hlen' hitems')
    rw [hvalues, hitems'] at hitems
    have hinj : Function.Injective
        fun s : String => (Except.ok (some s) : Except Fault (Option String)) :=
      fun a b hab => Option.some.inj (Except.ok.inj hab)
    rw [hinj.list_map hitems]

end

/-! ## Whole tables -/

section

variable {schema : ParamSchema} {tables tables' : Array Table} {t t' : Table} {params read : Params}

/-- An entry is read as the value of its parameter is. -/
theorem parseEntry_of_parseValue {name : String} {v : Value} {p : ParamKey} {value : ParamValue}
    (hp : schema.keys.find? (fun p => p.name = name) = some p)
    (hvalue : parseValue tables name p.type v = .ok value) :
    schema.parseEntry tables (.text name) v = .ok (name, value) := by
  simp only [parseEntry, Value.hostText, hp, hvalue, bind, Except.bind, pure, Except.pure]

theorem exists_parseEntry_iff {k v : Value} (hk : k.IsTextual) (hv : v.IsTextual)
    (hnested : ∀ id, v = .table id → (tables[id]?.getD .empty).Distinct ∧
      (tables[id]?.getD .empty).Textual ∧ (tables[id]?.getD .empty).NoHoles) :
    (∃ entry, parseEntry schema tables k v = .ok entry) ↔
      ∃ name p, k = .text name ∧ schema.keys.find? (fun p => p.name = name) = some p ∧
        p.type.Accepts tables v := by
  constructor
  · rintro ⟨⟨name, value⟩, h⟩
    obtain ⟨hname, p, hp, hvalue⟩ := parseEntry_eq_ok h
    exact ⟨name, p, text_of_hostText hk hname, hp,
      (exists_parseValue_iff hv hnested).1 ⟨value, hvalue⟩⟩
  · rintro ⟨name, p, rfl, hp, haccepts⟩
    obtain ⟨value, hvalue⟩ : ∃ value, parseValue tables name p.type v = .ok value :=
      (exists_parseValue_iff hv hnested).2 haccepts
    exact ⟨(name, value), parseEntry_of_parseValue hp hvalue⟩

theorem exists_parseEntries_iff : ∀ {entries : List (Value × Value)} (read : Params),
    (∃ params, parseEntries schema tables entries read = .ok params) ↔
      ∀ e ∈ entries, ∃ entry, parseEntry schema tables e.1 e.2 = .ok entry
  | [], read => ⟨fun _ => by simp, fun _ => ⟨read, rfl⟩⟩
  | (k, v) :: rest, read => by
    rw [List.forall_mem_cons]
    constructor
    · rintro ⟨params, h⟩
      obtain ⟨entry, hentry, h⟩ := bind_eq_ok h
      exact ⟨⟨entry, hentry⟩, (exists_parseEntries_iff _).1 ⟨params, h⟩⟩
    · rintro ⟨⟨⟨name, value⟩, hentry⟩, hall⟩
      obtain ⟨params, h⟩ := (exists_parseEntries_iff (insertByName name value read)).2 hall
      exact ⟨params, by simp only [parseEntries, hentry, h, bind, Except.bind]⟩

theorem parseEntries_ascending : ∀ {entries : List (Value × Value)} {read : Params},
    parseEntries schema tables entries read = .ok params →
      read.Pairwise (fun a b => a.1 < b.1) → params.Pairwise fun a b => a.1 < b.1
  | [], read, h, hread => by
    cases h
    exact hread
  | (k, v) :: rest, read, h, hread => by
    obtain ⟨entry, -, h⟩ := bind_eq_ok h
    exact parseEntries_ascending h (ascending_insertByName hread)

/-- The parameters are what the entries give, by name. -/
theorem mem_parseEntries_iff (ht : t.Wellformed tables)
    (h : parseEntries schema tables t.entries [] = .ok params) (key : String) (value : ParamValue) :
    (key, value) ∈ params ↔ ∃ v p, (.text key, v) ∈ t.entries ∧
      schema.keys.find? (fun p => p.name = key) = some p ∧ p.type.Gives tables v value := by
  have hread := mem_iff_of_tells
    (fun key v value => ∃ p, schema.keys.find? (fun p => p.name = key) = some p ∧
      parseValue tables key p.type v = .ok value)
    (fun e he => (ht.textual e he).1)
    (fun key v a b ⟨p, hp, ha⟩ ⟨q, hq, hb⟩ => by
      cases hp.symm.trans hq
      exact Except.ok.inj (ha.symm.trans hb))
    ht.distinct (parseEntries_ascending h .nil)
    (fun key => (parseEntries_tells h key).imp
      (fun v ⟨p, value, hp, hvalue, hlookup⟩ => ⟨value, ⟨p, hp, hvalue⟩, hlookup⟩) id)
    key value
  rw [hread]
  constructor
  · rintro ⟨v, hmem, p, hp, hvalue⟩
    exact ⟨v, p, hmem, hp, gives_of_parseValue (ht.textual _ hmem).2 (ht.nested _ hmem) hvalue⟩
  · rintro ⟨v, p, hmem, hp, hgives⟩
    have hnested := ht.nested _ hmem
    obtain ⟨⟨name, read⟩, hentry⟩ := (exists_parseEntries_iff []).1 ⟨params, h⟩ _ hmem
    obtain ⟨hname, p', hp', hvalue⟩ := parseEntry_eq_ok hentry
    cases hname
    cases hp.symm.trans hp'
    have hsame := gives_unique (fun id hid => (hnested id hid).1) hgives
      (gives_of_parseValue (ht.textual _ hmem).2 hnested hvalue)
    exact ⟨v, hmem, p, hp, hsame ▸ hvalue⟩

/-- The names of the parameters are the keys of the table. -/
theorem exists_mem_parseEntries_iff (ht : t.Wellformed tables)
    (h : parseEntries schema tables t.entries [] = .ok params) (key : String) :
    (∃ value, (key, value) ∈ params) ↔ ∃ v, (.text key, v) ∈ t.entries := by
  constructor
  · rintro ⟨value, hvalue⟩
    obtain ⟨v, -, hmem, -⟩ := (mem_parseEntries_iff ht h key value).1 hvalue
    exact ⟨v, hmem⟩
  · rintro ⟨v, hmem⟩
    obtain ⟨⟨name, value⟩, hentry⟩ := (exists_parseEntries_iff []).1 ⟨params, h⟩ _ hmem
    obtain ⟨hname, p, hp, hvalue⟩ := parseEntry_eq_ok hentry
    cases hname
    exact ⟨value, (mem_parseEntries_iff ht h key value).2 ⟨v, p, hmem, hp,
      gives_of_parseValue (ht.textual _ hmem).2 (ht.nested _ hmem) hvalue⟩⟩

theorem missing?_eq_none_iff (hread : read.Pairwise fun a b => a.1 < b.1) :
    schema.missing? read = none ↔
      ∀ p ∈ schema.keys, p.required = true → ∃ value, (p.name, value) ∈ read := by
  rw [missing?, Option.map_eq_none_iff, List.find?_eq_none]
  refine forall₂_congr fun p _ => ?_
  simp only [mem_iff_lookup hread, ← Option.isSome_iff_exists]
  cases p.required <;> simp [Option.isSome_iff_ne_none]

theorem parse_eq_ok_iff : schema.parse tables t = .ok params ↔
    parseEntries schema tables t.entries [] = .ok params ∧ schema.missing? params = none := by
  constructor
  · intro h
    obtain ⟨read, hread, h⟩ := bind_eq_ok h
    split at h
    · cases h
    · next hmissing =>
      cases h
      exact ⟨hread, hmissing⟩
  · rintro ⟨hread, hmissing⟩
    simp only [parse, hread, hmissing, bind, Except.bind, pure, Except.pure]

theorem exists_parse_iff (ht : t.Wellformed tables) :
    (∃ params, schema.parse tables t = .ok params) ↔ schema.Admits tables t := by
  have hentries : (∃ params, parseEntries schema tables t.entries [] = .ok params) ↔
      ∀ e ∈ t.entries, ∃ name p, e.1 = .text name ∧
        schema.keys.find? (fun p => p.name = name) = some p ∧ p.type.Accepts tables e.2 := by
    rw [exists_parseEntries_iff]
    exact forall₂_congr fun e he =>
      exists_parseEntry_iff (ht.textual e he).1 (ht.textual e he).2 (ht.nested e he)
  constructor
  · rintro ⟨params, h⟩
    obtain ⟨hread, hmissing⟩ := parse_eq_ok_iff.1 h
    refine ⟨hentries.1 ⟨params, hread⟩, fun p hp hrequired => ?_⟩
    obtain ⟨value, hvalue⟩ :=
      (missing?_eq_none_iff (parseEntries_ascending hread .nil)).1 hmissing p hp hrequired
    exact (exists_mem_parseEntries_iff ht hread p.name).1 ⟨value, hvalue⟩
  · rintro ⟨hfit, hthere⟩
    obtain ⟨params, hread⟩ := hentries.2 hfit
    refine ⟨params, parse_eq_ok_iff.2 ⟨hread, ?_⟩⟩
    refine (missing?_eq_none_iff (parseEntries_ascending hread .nil)).2 fun p hp hrequired => ?_
    exact (exists_mem_parseEntries_iff ht hread p.name).2 (hthere p hp hrequired)

/-! ## Other orders -/

theorem accepts_reordered {type : ParamType} {v : Value} (h : Reordered tables tables' t t')
    (haccepts : type.Accepts tables v) : type.Accepts tables' v := by
  cases type with
  | string | stringOrBlock => exact haccepts
  | stringMap | stringList =>
    obtain ⟨id, hid, hall⟩ := haccepts
    exact ⟨id, hid, fun e he => hall e ((h.nested id).symm.subset he)⟩

theorem gives_reordered {type : ParamType} {v : Value} {value : ParamValue}
    (h : Reordered tables tables' t t') (hgives : type.Gives tables v value) :
    type.Gives tables' v value := by
  cases type with
  | string | stringOrBlock => exact hgives
  | stringMap =>
    obtain ⟨id, members, hid, hvalue, hascending, hmem⟩ := hgives
    exact ⟨id, members, hid, hvalue, hascending, fun key s => by
      simp only [hmem key s, (h.nested id).mem_iff]⟩
  | stringList =>
    obtain ⟨id, values, items, hid, hvalue, hperm, hrest⟩ := hgives
    exact ⟨id, values, items, hid, hvalue, (h.nested id).symm.trans hperm, hrest⟩

end

end ParamSchema

section

variable {schema : ParamSchema} {tables tables' : Array Table} {t t' : Table} {params : Params}

theorem Reordered.symm (h : Reordered tables tables' t t') : Reordered tables' tables t' t :=
  ⟨h.entries.symm, fun id => (h.nested id).symm⟩

theorem Table.Wellformed.reordered (ht : t.Wellformed tables)
    (h : Reordered tables tables' t t') : t'.Wellformed tables' where
  distinct := ht.distinct.perm h.entries
  textual e he := ht.textual e (h.entries.symm.subset he)
  nested e he id hid := by
    obtain ⟨hdistinct, htextual, hholes⟩ := ht.nested e (h.entries.symm.subset he) id hid
    have hperm := h.nested id
    refine ⟨hdistinct.perm hperm, fun e he => htextual e (hperm.symm.subset he), ?_⟩
    intro n hn hmem m hlow hhigh
    exact (hperm.map Prod.fst).subset
      (hholes n hn ((hperm.map Prod.fst).symm.subset hmem) m hlow hhigh)

theorem ParamSchema.Admits.reordered (ha : schema.Admits tables t)
    (h : Reordered tables tables' t t') : schema.Admits tables' t' where
  entries_fit e he := by
    obtain ⟨name, p, hname, hp, haccepts⟩ := ha.entries_fit e (h.entries.symm.subset he)
    exact ⟨name, p, hname, hp, ParamSchema.accepts_reordered h haccepts⟩
  required_there p hp hrequired := by
    obtain ⟨v, hmem⟩ := ha.required_there p hp hrequired
    exact ⟨v, h.entries.subset hmem⟩

/-- What is read in one order is read in any other. -/
theorem ParamSchema.parse_reordered (ht : t.Wellformed tables) (h : Reordered tables tables' t t')
    (hparse : schema.parse tables t = .ok params) : schema.parse tables' t' = .ok params := by
  have ht' := ht.reordered h
  obtain ⟨params', hparse'⟩ := (exists_parse_iff ht').2
    (((exists_parse_iff ht).1 ⟨params, hparse⟩).reordered h)
  have hread := (parse_eq_ok_iff.1 hparse).1
  have hread' := (parse_eq_ok_iff.1 hparse').1
  have hsame : params' = params := by
    refine eq_of_ascending (parseEntries_ascending hread' .nil) (parseEntries_ascending hread .nil)
      fun p => ?_
    rw [mem_parseEntries_iff ht' hread' p.1 p.2, mem_parseEntries_iff ht hread p.1 p.2]
    constructor
    · rintro ⟨v, q, hmem, hq, hgives⟩
      exact ⟨v, q, h.entries.symm.subset hmem, hq, gives_reordered h.symm hgives⟩
    · rintro ⟨v, q, hmem, hq, hgives⟩
      exact ⟨v, q, h.entries.subset hmem, hq, gives_reordered h hgives⟩
  rw [hparse', hsame]

end

/-- **Tables of parameters.** Reading a table succeeds exactly if each key is one of the schema,
each value has the type of its key and each required key is there. The parameters are then the
keys of the table, in ascending order, each with what its value gives. Any other order of the
entries, of the table and of all tables in it, has the same success and the same parameters. -/
theorem ParamSchema.parse_any_order (schema : ParamSchema) (tables : Array Table) (t : Table)
    (ht : t.Wellformed tables) :
    ((∃ params, schema.parse tables t = .ok params) ↔ schema.Admits tables t) ∧
      (∀ params, schema.parse tables t = .ok params →
        params.Pairwise (fun a b => a.1 < b.1) ∧
        (∀ key, (∃ value, (key, value) ∈ params) ↔ ∃ v, (.text key, v) ∈ t.entries) ∧
        ∀ key value, (key, value) ∈ params ↔ ∃ v p, (.text key, v) ∈ t.entries ∧
          schema.keys.find? (fun p => p.name = key) = some p ∧ p.type.Gives tables v value) ∧
      ∀ tables' t', Reordered tables tables' t t' → ∀ params,
        schema.parse tables' t' = .ok params ↔ schema.parse tables t = .ok params := by
  refine ⟨exists_parse_iff ht, fun params h => ?_, fun tables' t' h params => ?_⟩
  · have hread := (parse_eq_ok_iff.1 h).1
    exact ⟨parseEntries_ascending hread .nil, exists_mem_parseEntries_iff ht hread,
      mem_parseEntries_iff ht hread⟩
  · exact ⟨parse_reordered (ht.reordered h) h.symm, parse_reordered ht h⟩

/-- A list that has to be there, a map, and what may be a function. -/
def jobSchema : ParamSchema :=
  ⟨"job", [⟨"args", .stringList, true⟩, ⟨"labels", .stringMap, false⟩,
    ⟨"run", .stringOrBlock, false⟩]⟩

/-- The elements of the list, and the members of the map, from the last to the first. -/
def jobTables : Array Table :=
  #[⟨[(.ofNat 2, .text "b"), (.ofNat 1, .bool true)], false, 0⟩,
    ⟨[(.text "y", .ofNat 7), (.text "x", .text "1")], false, 0⟩]

def jobTable : Table := ⟨[(.text "labels", .table 1), (.text "args", .table 0)], false, 0⟩

/-- The same in the opposite order. -/
def jobTables' : Array Table :=
  #[⟨[(.ofNat 1, .bool true), (.ofNat 2, .text "b")], false, 0⟩,
    ⟨[(.text "x", .text "1"), (.text "y", .ofNat 7)], false, 0⟩]

def jobTable' : Table := ⟨[(.text "args", .table 0), (.text "labels", .table 1)], false, 0⟩

theorem jobTable_wellformed : jobTable.Wellformed jobTables where
  distinct := by unfold Table.Distinct; decide
  textual := by decide
  nested e he id hid := by
    have hlist : (⟨[(.ofNat 2, .text "b"), (.ofNat 1, .bool true)], false, 0⟩ : Table).NoHoles := by
      intro n hn hmem m hlow hhigh
      have hn2 : n ≤ 2 := by
        simp only [List.map_cons, List.map_nil, List.mem_cons, List.not_mem_nil, or_false] at hmem
        rcases hmem with h | h <;> have := Value.ofNat_inj hn (by decide) h <;> omega
      obtain rfl | rfl : m = 1 ∨ m = 2 := by omega
      · decide
      · decide
    have hmap : (⟨[(.text "y", .ofNat 7), (.text "x", .text "1")], false, 0⟩ : Table).NoHoles := by
      intro n hn hmem
      simp [Value.ofNat] at hmem
    rcases List.mem_cons.1 he with rfl | he
    · cases hid
      exact ⟨by unfold Table.Distinct; decide, by decide, hmap⟩
    · cases List.mem_singleton.1 he
      cases hid
      exact ⟨by unfold Table.Distinct; decide, by decide, hlist⟩

theorem parse_any_order_job :
    jobTable.Wellformed jobTables ∧ jobSchema.Admits jobTables jobTable ∧
      jobSchema.parse jobTables' jobTable' =
        .ok [("args", .list ["true", "b"]), ("labels", .map [("x", "1"), ("y", "7")])] := by
  obtain ⟨haccepted, -, horder⟩ :=
    ParamSchema.parse_any_order jobSchema jobTables jobTable jobTable_wellformed
  have hparse : jobSchema.parse jobTables jobTable =
      .ok [("args", .list ["true", "b"]), ("labels", .map [("x", "1"), ("y", "7")])] := by
    decide +kernel
  refine ⟨jobTable_wellformed, haccepted.1 ⟨_, hparse⟩, (horder _ _ ⟨?_, fun id => ?_⟩ _).2 hparse⟩
  · exact List.Perm.swap _ _ _
  · match id with
    | 0 => exact List.Perm.swap _ _ _
    | 1 => exact List.Perm.swap _ _ _
    | _ + 2 => exact List.Perm.refl _

end ClusterScript.Script
