import ClusterScript.Proofs.Number.Doubles
import ClusterScript.Proofs.Number.SixPlaces
import ClusterScript.Proofs.Script.Building
import ClusterScript.Script.Pivot

/-!
# Trees come back from a script as they went in

A tree is converted to tables and read back from them. Only its numbers may
have changed, and the number mode says how: to the text of its double value
with six decimals, or not at all unless no signed 64 bits hold it. Keys,
nesting, nulls and the difference between an empty list and an empty object
are kept.

Tables are made from the outside in, so that a table only refers to tables
with greater numbers. That is why reading never meets a table that it is
already inside of, and why it needs no more steps than there are tables.

* `Number.Returns`: what a mode promises of a number, and `Number.returned`,
  which keeps that promise.
* `Reads`: a value is read as a tree, by the tables from a number on.
* `build_reads`: what is built is read as the tree with its numbers returned.
* `pivot_fromJson`: the round trip.
-/
namespace ClusterScript

/-- What a number of a tree is once it went through a script. -/
def Number.returned : Script.NumberMode → Number → Json
  | .decimalString, n => .str (Decimal.sixPlaces n.toBinary64)
  | .native, .whole n =>
    if n.val < Power.signedLimit then .num (.whole n) else .num (.float (Binary64.ofInt n.val))
  | .native, .float x => .num (.float x)

/-- What a mode promises of a number that went through a script. As a text, it is its double value
with six decimals; as a number, it is itself, or its double value where it is above all signed
integers of 64 bits. -/
def Number.Returns : Script.NumberMode → Number → Json → Prop
  | .decimalString, n, j => ∃ x text, n.IsDouble x ∧ Decimal.Writes x text ∧ j = .str text
  | .native, .whole n, j =>
    if n.val ≤ 0x7fffffffffffffff then j = .num (.whole n)
    else ∃ x, (Number.whole n).IsDouble x ∧ j = .num (.float x)
  | .native, .float x, j => j = .num (.float x)

theorem Number.returns_returned (mode : Script.NumberMode) {n : Number}
    (h : (Json.num n).Bounded) : n.Returns mode (n.returned mode) := by
  have hdouble := n.isDouble_toBinary64
  cases mode with
  | decimalString =>
    exact ⟨_, _, hdouble, Decimal.sixPlaces_writes (isFinite_toBinary64 h), rfl⟩
  | native =>
    cases n with
    | float x => rfl
    | whole n =>
      have hlimit : Power.signedLimit = 0x8000000000000000 := rfl
      rw [Returns, returned]
      split
      · next hle => rw [if_pos (by omega)]
      · next hlt =>
        rw [if_neg (by omega)]
        exact ⟨_, hdouble, rfl⟩

/-- A whole number is its own return unless it is above all signed integers of 64 bits. -/
theorem Number.returned_native_whole (n : WholeNumber) :
    Number.returned .native (.whole n) = .num (.whole n) ↔ n.val ≤ 0x7fffffffffffffff := by
  have hlimit : Power.signedLimit = 0x8000000000000000 := rfl
  simp only [Number.returned]
  by_cases h : n.val < Power.signedLimit
  · simp only [if_pos h, true_iff]
    omega
  · simp only [if_neg h, Json.num.injEq, reduceCtorEq, false_iff]
    omega

namespace Script

theorem ofInt64_ofInt (n : WholeNumber) (h : n.val < Power.signedLimit) :
    WholeNumber.ofInt64 (Int64.ofInt n.val) = n := by
  obtain ⟨i, lower, upper⟩ := n
  simp only [Power.signedLimit] at h
  simp only [WholeNumber.ofInt64, WholeNumber.mk.injEq]
  exact Int64.toInt_ofInt_of_le (by omega) (by omega)

/-- A number leaves a script as its mode says. -/
theorem pivotScalar_numberValue (mode : NumberMode) {n : Number} (h : (Json.num n).Bounded) :
    pivotScalar (numberValue mode n) = .ok (n.returned mode) := by
  cases mode with
  | decimalString => cases n <;> rfl
  | native =>
    cases n with
    | float x =>
      have hx : x.isFinite = true := h
      simp [numberValue, pivotScalar, Number.returned, hx]
    | whole n =>
      simp only [numberValue, WholeNumber.toInt64?, Number.returned]
      by_cases hn : n.val < Power.signedLimit
      · simp only [if_pos hn, pivotScalar, ofInt64_ofInt n hn]
      · have hfinite := Binary64.isFinite_ofInt n.natAbs_lt
        simp only [if_neg hn, pivotScalar, hfinite, if_true]

/-! ## Reading tables -/

/-- A value is read as a tree in every heap that has the given tables from number `low` on, if
the tables being read have smaller numbers. -/
def Reads (tables : Array Table) (low : Nat) (v : Value) (j : Json) : Prop :=
  ∀ (heap : Array Table) (fuel : Nat) (outer : List Nat),
    (∀ i, low ≤ i → i < tables.size → heap[i]? = tables[i]?) → tables.size ≤ fuel + low →
      (∀ o ∈ outer, o < low) → pivotValue heap fuel outer v = .ok j

section

variable {tables tables' heap : Array Table} {low low' fuel id : Nat} {outer : List Nat}
variable {v : Value} {j : Json} {t : Table}

theorem Reads.mono (h : Reads tables low v j) (hlow : low' ≤ low)
    (hsize : tables.size ≤ tables'.size)
    (hsame : ∀ i, low ≤ i → i < tables.size → tables'[i]? = tables[i]?) :
    Reads tables' low' v j := by
  intro heap fuel outer hheap hfuel houter
  refine h heap fuel outer (fun i hi hlt => ?_) (by omega) (fun o ho => ?_)
  · rw [hheap i (by omega) (by omega), hsame i hi hlt]
  · have := houter o ho
    omega

/-- What is read in every heap is the tree of the value. -/
theorem Reads.pivot (h : Reads tables low v j) : Script.pivot tables v = .ok j :=
  h _ _ _ (fun _ _ _ => rfl) (by omega) (by simp)

theorem pivotItems_ok {values : List Value} {items : List Json}
    (h : List.Forall₂ (fun v j => pivotValue heap fuel outer v = .ok j) values items) :
    pivotItems heap fuel outer values = .ok items := by
  induction h with
  | nil => rw [pivotItems]
  | cons hv _ ih =>
    rw [pivotItems, hv, ih]
    rfl

theorem pivotMembers_ok {entries : List (Value × Value)} {members : List (String × Json)}
    (h : List.Forall₂ (fun e m => e.1 = .text m.1 ∧ pivotValue heap fuel outer e.2 = .ok m.2)
      entries members) :
    pivotMembers heap fuel outer entries = .ok members := by
  induction h with
  | nil => rw [pivotMembers]
  | @cons e m _ _ he _ ih =>
    obtain ⟨k, v⟩ := e
    obtain ⟨rfl, hv⟩ := he
    have hname : memberName heap (.text m.1) = .ok m.1 := rfl
    rw [pivotMembers, hname, hv, ih]
    rfl

/-- What a table refers to is read inside of it. -/
theorem Reads.inside (h : Reads tables (id + 1) v j)
    (hheap : ∀ i, id ≤ i → i < tables.size → heap[i]? = tables[i]?)
    (hfuel : tables.size ≤ fuel + 1 + id) (houter : ∀ o ∈ outer, o < id) :
    pivotValue heap fuel (id :: outer) v = .ok j := by
  refine h heap fuel _ (fun i hi hlt => hheap i (by omega) hlt) (by omega) fun o ho => ?_
  rcases List.mem_cons.1 ho with rfl | ho
  · omega
  · have := houter o ho
    omega

/-- One step into a table that is not being read yet. -/
theorem pivotValue_table (ht : heap[id]? = some t) (houter : ∀ o ∈ outer, o < id) :
    pivotValue heap (fuel + 1) outer (.table id) =
      if isList t then (pivotItems heap fuel (id :: outer) t.sequence).map Json.arr
      else (pivotMembers heap fuel (id :: outer) t.entries).map Json.ofMembers := by
  have hid : outer.contains id = false := by
    simpa using fun h => Nat.lt_irrefl _ (houter id h)
  rw [pivotValue, hid, ht]
  rfl

/-- A list is read from a table whose sequence is read. -/
theorem Reads.arr {items : List Json} (ht : tables[id]? = some t) (hlist : isList t = true)
    (h : List.Forall₂ (Reads tables (id + 1)) t.sequence items) :
    Reads tables id (.table id) (.arr items) := by
  intro heap fuel outer hheap hfuel houter
  have hid : id < tables.size := (Array.getElem?_eq_some_iff.1 ht).1
  obtain ⟨fuel, rfl⟩ : ∃ n, fuel = n + 1 := ⟨fuel - 1, by omega⟩
  have hitems : pivotItems heap fuel (id :: outer) t.sequence = .ok items :=
    pivotItems_ok (h.imp fun _ _ hv => hv.inside hheap hfuel houter)
  rw [pivotValue_table ((hheap id (Nat.le_refl _) hid).trans ht) houter, if_pos hlist, hitems]
  rfl

/-- An object is read from a table whose entries are read. -/
theorem Reads.obj {members : List (String × Json)} (ht : tables[id]? = some t)
    (hlist : isList t = false)
    (h : List.Forall₂ (fun e m => e.1 = .text m.1 ∧ Reads tables (id + 1) e.2 m.2)
      t.entries members) :
    Reads tables id (.table id) (Json.ofMembers members) := by
  intro heap fuel outer hheap hfuel houter
  have hid : id < tables.size := (Array.getElem?_eq_some_iff.1 ht).1
  obtain ⟨fuel, rfl⟩ : ∃ n, fuel = n + 1 := ⟨fuel - 1, by omega⟩
  have hmembers : pivotMembers heap fuel (id :: outer) t.entries = .ok members :=
    pivotMembers_ok (h.imp fun _ _ he => ⟨he.1, he.2.inside hheap hfuel houter⟩)
  rw [pivotValue_table ((hheap id (Nat.le_refl _) hid).trans ht) houter, hlist, hmembers]
  rfl

end

/-! ## Reading what was built -/

/-- What is built of a tree is read as the tree with its numbers returned. -/
def ReadsBack (mode : NumberMode) (j : Json) : Prop :=
  ∀ (w w' : World) (v : Value), (build mode j).run w = .ok v w' →
    v ≠ .nil ∧ Reads w'.tables w.tables.size v (j.mapNumbers (Number.returned mode))

section

variable {mode : NumberMode} {w w' : World}

/-- Reading is said by the tables from a number on. -/
theorem reads_lasting :
    Saying.Lasting fun tables low v j => Reads tables low v (j.mapNumbers (Number.returned mode)) :=
  ⟨Reads.mono⟩

/-- What is built of a list is a table of its elements, and each of them is read as what it was
built of. -/
theorem build_elements {items : List Json} {v : Value} (hread : ∀ j ∈ items, ReadsBack mode j)
    (hlen : items.length < 0x8000000000000000) (hrun : (build mode (.arr items)).run w = .ok v w') :
    ∃ values, v = .table w.tables.size ∧
      w'.tables[w.tables.size]? = some ⟨Table.numbered 1 values, true, 0⟩ ∧
      (∀ u ∈ values, u ≠ .nil) ∧
      List.Forall₂ (fun u j =>
        Reads w'.tables (w.tables.size + 1) u (j.mapNumbers (Number.returned mode))) values items :=
  built_arr reads_lasting hread hlen hrun

theorem arr_reads {items : List Json} (hread : ∀ j ∈ items, ReadsBack mode j)
    (hlen : items.length < 0x8000000000000000) : ReadsBack mode (.arr items) := by
  intro w w' v hrun
  obtain ⟨values, rfl, ht, hnil, hvalues⟩ := build_elements hread hlen hrun
  have hseq : (Table.mk (Table.numbered 1 values) true 0).sequence = values := by
    refine Table.sequence_numbered rfl ?_ hnil
    rw [hvalues.length_eq]
    exact hlen
  refine ⟨by simp, Reads.arr ht (by simp [isList]) ?_⟩
  rw [hseq, Json.mapItems_eq]
  exact List.forall₂_map_right_iff.2 hvalues

theorem obj_reads {members : List (String × Json)} (hread : ∀ m ∈ members, ReadsBack mode m.2)
    (hsorted : Json.Sorted members) : ReadsBack mode (.obj members) := by
  intro w w' v hrun
  obtain ⟨entries, rfl, ht, hentries⟩ := built_obj reads_lasting hread hsorted hrun
  have hnames : ∀ e ∈ entries, ∃ name, e.1 = .text name := by
    have h := hentries.imp (S := fun e _ => (∃ name, e.1 = .text name) ∧ True)
      fun e m he => ⟨⟨m.1, he.1⟩, trivial⟩
    exact ((List.forall₂_and_left _ _).1 h).1
  have hlength : (Table.mk entries false 0).length = 0 := Table.length_named hnames
  have hlist : isList ⟨entries, false, 0⟩ = false := by simp [isList, hlength]
  refine ⟨by simp, ?_⟩
  have hall : List.Forall₂ (fun e m => e.1 = .text m.1 ∧
      Reads w'.tables (w.tables.size + 1) e.2 m.2)
      entries (Json.mapMembers (Number.returned mode) members) := by
    rw [Json.mapMembers_eq]
    exact List.forall₂_map_right_iff.2 (hentries.imp fun _ _ h => ⟨h.1, h.2.2⟩)
  have hreads := Reads.obj ht hlist hall
  rwa [Json.ofMembers, Json.sortMembers_of_sorted (Json.sorted_mapMembers hsorted)] at hreads

theorem scalar_reads {j : Json} (hbuild : build mode j = pure (scalarValue mode j))
    (hnil : scalarValue mode j ≠ .nil)
    (hpivot : ∀ (heap : Array Table) (fuel : Nat) (outer : List Nat),
      pivotValue heap fuel outer (scalarValue mode j) =
        .ok (j.mapNumbers (Number.returned mode))) : ReadsBack mode j := by
  intro w w' v hrun
  rw [hbuild] at hrun
  cases hrun
  exact ⟨hnil, fun heap fuel outer _ _ _ => hpivot heap fuel outer⟩

theorem num_reads {n : Number} (hb : (Json.num n).Bounded) : ReadsBack mode (.num n) := by
  have hpivot := pivotScalar_numberValue mode hb
  refine scalar_reads rfl ?_ fun heap fuel outer => ?_
  · rw [scalarValue]
    obtain ⟨_, h⟩ | ⟨_, h⟩ | ⟨_, h⟩ := numberValue_cases mode n <;> simp [h]
  · rw [scalarValue, Json.mapNumbers, ← hpivot]
    obtain ⟨_, h⟩ | ⟨_, h⟩ | ⟨_, h⟩ := numberValue_cases mode n <;> simp [h, pivotValue]

/-- A built tree is read as it was, but for its numbers. -/
theorem build_reads {j : Json} (hc : j.Canonical) (hb : j.Bounded) : ReadsBack mode j := by
  induction j using Json.induct with
  | null | bool | str =>
    exact scalar_reads rfl (by simp [scalarValue]) fun heap fuel outer => by
      simp [scalarValue, pivotValue, pivotScalar, Json.mapNumbers]
  | num n => exact num_reads hb
  | arr items ih =>
    rw [Json.Canonical, Json.canonicalItems_iff] at hc
    rw [Json.Bounded, Json.boundedItems_iff] at hb
    exact arr_reads (fun j hj => ih j hj (hc j hj) (hb.2 j hj)) (by omega)
  | obj members ih =>
    rw [Json.Canonical, Json.canonicalMembers_iff] at hc
    rw [Json.Bounded, Json.boundedMembers_iff] at hb
    exact obj_reads (fun m hm => ih m hm (hc.2 m hm) (hb m hm)) hc.1

end

/-- **A tree comes back from a script with only its numbers changed.** Converting succeeds in
every world; what is read from the tables is the tree with each number replaced by what the mode
promises: the text of its double value with six decimals, or the number itself, unless it is above
the signed integers of 64 bits and a float comes back. Numbers kept as numbers come back as they
were exactly when no integer is above the signed ones of 64 bits. -/
theorem pivot_fromJson (mode : NumberMode) (j : Json) (hc : j.Canonical) (hb : j.Bounded)
    (w : World) :
    ∃ v w', (fromJson mode j).run w = .ok v w' ∧
      pivot w'.tables v = .ok (j.mapNumbers (Number.returned mode)) ∧
      (∀ n ∈ j.numbers, n.Returns mode (n.returned mode)) ∧
      (mode = .native →
        (pivot w'.tables v = .ok j ↔ ∀ n, .whole n ∈ j.numbers → n.val ≤ 0x7fffffffffffffff)) := by
  obtain ⟨v, w', hrun, hgrown⟩ := build_grows mode j w
  obtain ⟨-, hreads⟩ := build_reads hc hb w w' v hrun
  have hpivot : pivot w'.tables v = .ok (j.mapNumbers (Number.returned mode)) := hreads.pivot
  refine ⟨v, w', (fromJson_eq_build mode j w).trans hrun, hpivot,
    fun n hn => Number.returns_returned mode (hb.number hn), ?_⟩
  rintro rfl
  rw [hpivot, Except.ok.injEq, Json.mapNumbers_eq_self_iff]
  constructor
  · exact fun h n hn => (Number.returned_native_whole n).1 (h _ hn)
  · intro h n hn
    cases n with
    | whole n => exact (Number.returned_native_whole n).2 (h n hn)
    | float x => rfl

/-- Empty containers, a null in a list and the first integer that no signed 64 bits hold, as
numbers; and as texts, a tenth, two floats halfway between millionths, and an integer that is no
float. -/
theorem pivot_fromJson_border :
    (∃ v w', (fromJson .native (.obj [("a", .arr []), ("b", .obj []),
        ("c", .arr [.null, .num (.whole ⟨0x8000000000000000, by decide, by decide⟩)])])).run
          default = .ok v w' ∧
      pivot w'.tables v = .ok (.obj [("a", .arr []), ("b", .obj []),
        ("c", .arr [.null, .num (.float ⟨0x43E0000000000000⟩)])])) ∧
    ∃ v w', (fromJson .decimalString (.arr [.num (.float ⟨0x3FB999999999999A⟩),
        .num (.float ⟨0xBF80000000000000⟩), .num (.float ⟨0x3F98000000000000⟩),
        .num (.whole ⟨0x20000000000001, by decide, by decide⟩)])).run default = .ok v w' ∧
      pivot w'.tables v = .ok (.arr [.str "0.100000", .str "-0.007812", .str "0.023438",
        .str "9007199254740992.000000"]) := by
  constructor
  · have hsorted : Json.Sorted [("a", Json.arr []), ("b", .obj []),
        ("c", .arr [.null, .num (.whole ⟨0x8000000000000000, by decide, by decide⟩)])] := by
      simp only [Json.Sorted, List.pairwise_cons]
      decide
    obtain ⟨v, w', hrun, hpivot, -⟩ := pivot_fromJson .native
      (.obj [("a", .arr []), ("b", .obj []),
        ("c", .arr [.null, .num (.whole ⟨0x8000000000000000, by decide, by decide⟩)])])
      ⟨hsorted, by simp [Json.CanonicalMembers, Json.CanonicalItems, Json.Canonical, Json.Sorted]⟩
      (by simp [Json.Bounded, Json.BoundedMembers, Json.BoundedItems]) default
    exact ⟨v, w', hrun, hpivot⟩
  · obtain ⟨v, w', hrun, hpivot, -⟩ := pivot_fromJson .decimalString
      (.arr [.num (.float ⟨0x3FB999999999999A⟩), .num (.float ⟨0xBF80000000000000⟩),
        .num (.float ⟨0x3F98000000000000⟩),
        .num (.whole ⟨0x20000000000001, by decide, by decide⟩)])
      (by simp [Json.Canonical, Json.CanonicalItems])
      (by
        simp only [Json.Bounded, Json.BoundedItems]
        decide) default
    exact ⟨v, w', hrun, hpivot⟩

end Script

end ClusterScript
