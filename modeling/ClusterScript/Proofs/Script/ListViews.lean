import ClusterScript.Cluster.Decoding
import ClusterScript.Proofs.Script.Listing
import ClusterScript.Proofs.Script.NamedCalls
import ClusterScript.Proofs.Script.ObjectCalls
import ClusterScript.Proofs.Script.RoundTrip

/-!
# The views of a list agree

A list shows its objects in several ways: by position, counted from either
end, as a table of objects, of names or of trees, and by its length. All of
them show the same objects in the same places. Positions are whole numbers of
any size, as integers or as floats; none of them fails, and beyond the ends of
the list there is nothing.

* `counted`: the object at a position, counted from 0 or back from -1.
* `resolve_clamp64`: what a list makes of a whole number is that position,
  although it goes through 64 bits.
* `World.Wraps`: a value that is a new object for a choice, or nil.
* `views_agree`: the views of a list at any moment of a session.
-/
namespace ClusterScript

/-- The nearest integer of 64 bits. -/
def clamp64 (k : Int) : Int :=
  if k < -Power.signedLimit then -Power.signedLimit
  else if Power.signedLimit ≤ k then Power.signedLimit - 1
  else k

/-- Truncation keeps an integer up to the limits of 64 bits. -/
theorem Binary64.toInt_toInt64 {x : Binary64} {k : Int} (h : x.toInt? = some k) :
    x.toInt64.toInt = clamp64 k := by
  have hclamp : ∀ i : Int, (if i < -Power.signedLimit then Int64.minValue
      else if Power.signedLimit ≤ i then Int64.maxValue else Int64.ofInt i).toInt = clamp64 i := by
    intro i
    have hlimit : Power.signedLimit = 0x8000000000000000 := rfl
    unfold clamp64
    split
    · rfl
    · split
      · rfl
      · exact Int64.toInt_ofInt_of_le (by omega) (by omega)
  unfold toInt? at h
  split at h
  · next neg m q hreading =>
    dsimp only at h
    split at h
    · cases h
    · rw [toInt64, hreading, ← Option.some.inj h]
      exact hclamp _
  · cases h

namespace Script

open Run

/-- The whole number that a value is, an integer or a float without a fractional part. -/
def Value.whole? : Value → Option Int
  | .int i => some i.toInt
  | .float x => x.toInt?
  | _ => none

/-- The object at a position: from 0 on, or back from -1. -/
def counted (items : List Json) (k : Int) : Option Json :=
  if 0 ≤ k ∧ k < items.length then items[k.toNat]?
  else if -items.length ≤ k ∧ k < 0 then items[(items.length + k).toNat]?
  else none

section

variable {items : List Json} {key : Value} {k : Int}

/-! ## Positions -/

theorem indexOf_whole (h : key.whole? = some k) : Lists.indexOf key = .ok (clamp64 k) := by
  cases key with
  | int i =>
    cases h
    have hlow := Int64.le_toInt i
    have hhigh := Int64.toInt_lt i
    have hlimit : Power.signedLimit = 0x8000000000000000 := rfl
    rw [clamp64, if_neg (by omega), if_neg (by omega)]
    rfl
  | float x =>
    have hwhole : isWhole x = true := by
      rw [isWhole, show x.toInt? = some k from h]
      rfl
    rw [← Binary64.toInt_toInt64 h]
    exact if_pos hwhole
  | _ => cases h

theorem indexOf_float_refused {x : Binary64} (h : x.toInt? = none) :
    Lists.indexOf (.float x) = .error (.indexType "number") := by
  have hwhole : isWhole x = false := by
    rw [isWhole, h]
    rfl
  simp only [Lists.indexOf, hwhole]
  rfl

/-- The limits of 64 bits are beyond the ends of any list. -/
theorem resolve_clamp64 (hlen : items.length < 0x8000000000000000) :
    ((Lists.resolve items.length (clamp64 k)).bind fun n => items[n]?) = counted items k := by
  have hlimit : Power.signedLimit = 0x8000000000000000 := rfl
  by_cases hinside : -items.length ≤ k ∧ k < items.length
  · have hkept : clamp64 k = k := by
      rw [clamp64, if_neg (by omega), if_neg (by omega)]
    rw [hkept, Lists.resolve, counted]
    by_cases hfront : 0 ≤ k
    · rw [if_neg (by omega : ¬ k < 0), if_pos ⟨hfront, hinside.2⟩, if_pos ⟨hfront, hinside.2⟩,
        Option.bind_some]
    · rw [if_pos (by omega : k < 0), if_pos ⟨by omega, by omega⟩, if_neg (by omega),
        if_pos ⟨hinside.1, by omega⟩, Option.bind_some, Int.add_comm]
  · have hclamped : clamp64 k < -items.length ∨ items.length ≤ clamp64 k := by
      unfold clamp64
      split
      · omega
      · split <;> omega
    rw [counted, if_neg (by omega), if_neg (by omega), Lists.resolve, if_neg (by split <;> omega)]
    rfl

end

theorem whole?_ofNat {i : Nat} (h : i < 0x8000000000000000) :
    (Value.ofNat i).whole? = some (i : Int) := by
  rw [Value.ofNat, Value.whole?, Int64.toInt_ofNat_of_lt h]

theorem counted_ofNat {items : List Json} {i : Nat} (h : i < items.length) :
    counted items i = some items[i] := by
  rw [counted, if_pos ⟨by omega, by omega⟩, Int.toNat_natCast, List.getElem?_eq_getElem h]

theorem counted_first (items : List Json) : counted items 0 = items.head? := by
  cases items with
  | nil => rfl
  | cons j rest => exact counted_ofNat (i := 0) (by simp)

theorem counted_last (items : List Json) : counted items (-1) = items.getLast? := by
  rw [counted, if_neg (by omega), List.getLast?_eq_getElem?]
  by_cases h : items = []
  · subst h
    rfl
  · have hpos := List.length_pos_iff.2 h
    rw [if_pos ⟨by omega, by omega⟩]
    congr 1
    omega

/-! ## Sequences -/

/-- A table of values has the one at a position one place further on. -/
theorem run_index_numbered {w : World} {call : Caller} {id i : Nat} {t : Table}
    {values : List Value} (ht : w.tables[id]? = some t)
    (hentries : t.entries = Table.numbered 1 values)
    (hlen : values.length < 0x8000000000000000) (hi : i < values.length) :
    (index call trapped (.table id) (.ofNat (i + 1))).run w = .ok values[i] w := by
  have hsplit : values.take i ++ values[i] :: values.drop (i + 1) = values := by simp
  have hget : t.get (.ofNat (i + 1)) = values[i] := by
    rw [← hsplit] at hentries hlen
    have hplace := Table.get_numbered hentries hlen
    rwa [List.length_take_of_le (Nat.le_of_lt hi)] at hplace
  have hrun : (index call trapped (.table id) (.ofNat (i + 1))).run w =
      .ok ((w.tables[id]?.getD .empty).get (.ofNat (i + 1))) w := rfl
  rw [hrun, ht, Option.getD_some, hget]

/-! ## Objects at hand -/

/-- A value is an object of a kind for a choice, or nil where there is none. -/
def World.Wraps (w : World) (r : Resource) (v : Value) : Option Json → Prop
  | none => v = .nil
  | some j => ∃ o, v = .instance o ∧ w.registry.classId? r.kind = some o.cls ∧
      w.registry.lookup o = .ok (.object j)

/-- A list of few enough objects, and the methods of its class and of theirs. -/
structure World.HasList (w : World) (r : Resource) (p : Instance) (items : List Json) : Prop where
  state : ∃ q, w.registry.lookup p = .ok (.list q items)
  small : items.length < 0x8000000000000000
  methods : ∀ m ∈ Lists.methods r, w.Answers p.cls m
  kind : ∃ cls, w.registry.classId? r.kind = some cls
  objectMethods : ∀ cls, w.registry.classId? r.kind = some cls →
    ∀ m ∈ Objects.methods r, w.Answers cls m

section

variable {w : World} {r : Resource} {p : Instance} {items : List Json} {key v : Value}
variable {k : Int} {choice : Option Json} {x : Binary64} {cls : Nat}

theorem World.Wraps.extends {w' : World} (h : w.Wraps r v choice)
    (hw : w.Extends (fun _ => True) w') : w'.Wraps r v choice := by
  cases choice with
  | none => exact h
  | some j =>
    obtain ⟨o, hv, hcls, ho⟩ := h
    exact ⟨o, hv, hw.registry.classId? hcls, hw.registry.lookup ho⟩

theorem newObject_gives (hcls : w.registry.classId? r.kind = some cls) (j : Json) :
    (newObject r j).Gives w fun v w' => w'.Wraps r v (some j) ∧ w.Extends (fun _ => True) w' :=
  .bind (newInstanceOf_gives hcls (.object j)) fun o _ ⟨ho, hw, hstate⟩ =>
    .pure ⟨⟨o, rfl, ho ▸ hw.ext.registry.classId? hcls, hstate⟩, hw.ext⟩

theorem wrap_gives (hcls : w.registry.classId? r.kind = some cls) (choice : Option Json) :
    (Lists.wrap r choice).Gives w fun vs w' => ∃ v, vs = [v] ∧ w'.Wraps r v choice ∧
      w.Extends (fun _ => True) w' := by
  cases choice with
  | none => exact .pure ⟨.nil, rfl, rfl, .refl w⟩
  | some j =>
    exact .bind (newObject_gives hcls j) fun v _ ⟨hv, hw⟩ => .pure ⟨v, rfl, hv, hw⟩

theorem newObjects_gives (hcls : w.registry.classId? r.kind = some cls) (items : List Json) :
    (newObjects r items).Gives w fun vs w' =>
      List.Forall₂ (fun v j => w'.Wraps r v (some j)) vs items ∧
        w.Extends (fun _ => True) w' := by
  induction items generalizing w with
  | nil => exact .pure ⟨.nil, .refl w⟩
  | cons j rest ih =>
    refine .bind (newObject_gives hcls j) fun v w₁ ⟨hv, hw₁⟩ => ?_
    refine .bind (ih (hw₁.registry.classId? hcls)) fun vs w₂ ⟨hvs, hw₂⟩ => ?_
    exact .pure ⟨.cons (hv.extends hw₂) hvs, hw₁.trans hw₂⟩

/-! ## Single objects -/

namespace World.HasList

theorem contents (h : w.HasList r p items) : ∃ q, (Lists.contents p).run w = .ok (q, items) w := by
  obtain ⟨q, hp⟩ := h.state
  exact ⟨q, by rw [Lists.contents, run_bind_of_ok (run_lookup hp)]; rfl⟩

/-- A method that is no position and asks no cluster runs on the objects. -/
theorem run_perform [Library] (h : w.HasList r p items) (name : String) (b : ListBody) (depth : Nat)
    (hm : ⟨name, .exact 0, .list r b⟩ ∈ Lists.methods r) :
    (send (callAt (depth + 1)) p name []).run w =
      (Lists.perform (callAt depth) r p b []).run w :=
  run_send (h.methods _ hm) rfl [] rfl depth

theorem run_itemAt (h : w.HasList r p items) (hkey : key.whole? = some k) :
    (Lists.itemAt r p [key]).run w = (Lists.wrap r (counted items k)).run w := by
  obtain ⟨q, hcontents⟩ := h.contents
  have hindex : (liftRefusal (Lists.indexOf key)).run w = .ok (clamp64 k) w := by
    rw [indexOf_whole hkey]
    rfl
  rw [Lists.itemAt, run_bind_of_ok hindex, run_bind_of_ok hcontents]
  dsimp only
  rw [resolve_clamp64 h.small]

/-- **Positions.** A whole number gives the object at its position, in brackets and as a
method. -/
theorem position [Library] (h : w.HasList r p items) (hkey : key.whole? = some k) (depth : Nat) :
    (index (callAt (depth + 1)) trapped (.instance p) key).Gives w (fun v w' =>
      w'.Wraps r v (counted items k) ∧ w.Extends (fun _ => True) w') ∧
    (send (callAt (depth + 1)) p "at" [key]).Gives w (fun vs w' => ∃ v, vs = [v] ∧
      w'.Wraps r v (counted items k) ∧ w.Extends (fun _ => True) w') := by
  obtain ⟨cls, hcls⟩ := h.kind
  have hitem : (Lists.itemAt r p [key]).Gives w fun vs w' => ∃ v, vs = [v] ∧
      w'.Wraps r v (counted items k) ∧ w.Extends (fun _ => True) w' :=
    (wrap_gives hcls (counted items k)).of_run_eq (h.run_itemAt hkey)
  constructor
  · obtain ⟨_, w', hrun, v, rfl, hv⟩ := hitem.exists_ok
    have hbrackets := h.methods ⟨"[]", .exact 1, .list r .at⟩ (by simp [Lists.methods])
    have hnumber : (∃ n, key = .int n) ∨ ∃ x, key = .float x := by
      cases key with
      | int n => exact .inl ⟨n, rfl⟩
      | float x => exact .inr ⟨x, rfl⟩
      | _ => cases hkey
    exact .of_ok ((run_index_position hbrackets rfl rfl hnumber depth).1 _ _ hrun) hv
  · have hat := h.methods ⟨"at", .exact 1, .list r .at⟩ (by simp [Lists.methods])
    exact hitem.of_run_eq (run_send hat rfl [_] rfl depth)

/-- Another number is no position. -/
theorem position_refused [Library] (h : w.HasList r p items) (hx : x.toInt? = none) (depth : Nat) :
    (index (callAt (depth + 1)) trapped (.instance p) (.float x)).Declines w
      (.refused (.indexType "number")) ∧
    (send (callAt (depth + 1)) p "at" [.float x]).Declines w (.refused (.indexType "number")) := by
  have hitem : (Lists.itemAt r p [.float x]).Declines w
      (.refused (.indexType "number")) := by
    refine Declines.bind ?_
    rw [indexOf_float_refused hx]
    rfl
  have hbrackets := h.methods ⟨"[]", .exact 1, .list r .at⟩ (by simp [Lists.methods])
  have hat := h.methods ⟨"at", .exact 1, .list r .at⟩ (by simp [Lists.methods])
  exact ⟨(run_index_position hbrackets rfl rfl (.inr ⟨x, rfl⟩) depth).2 _ hitem,
    (run_send hat rfl [_] rfl depth).trans hitem⟩

/-- Within the list, a position from 0 gives an object with the methods of its class. -/
theorem object_at [Library] (h : w.HasList r p items) {i : Nat} (hi : i < items.length)
    (depth : Nat) :
    ∃ o w', (index (callAt (depth + 1)) trapped (.instance p) (.ofNat i)).run w =
        .ok (.instance o) w' ∧ w'.registry.lookup o = .ok (.object items[i]) ∧ w'.host = w.host ∧
      ∀ m ∈ Objects.methods r, w'.Answers o.cls m := by
  have hsmall := h.small
  obtain ⟨v, w', hrun, hwraps, hw⟩ :=
    (h.position (whole?_ofNat (by omega : i < 0x8000000000000000)) depth).1.exists_ok
  rw [counted_ofNat hi] at hwraps
  obtain ⟨o, rfl, hcls, ho⟩ := hwraps
  obtain ⟨cls, hkind⟩ := h.kind
  cases (hw.registry.classId? hkind).symm.trans hcls
  exact ⟨o, w', hrun, ho, hw.host, fun m hm => (h.objectMethods _ hkind m hm).extends hw⟩

/-! ## Whole lists -/

/-- The length, and the objects at both ends. -/
theorem ends_of_list [Library] (h : w.HasList r p items) (depth : Nat) :
    (send (callAt (depth + 1)) p "count" []).run w = .ok [.ofNat items.length] w ∧
      (length (callAt (depth + 1)) (.instance p)).run w = .ok (.ofNat items.length) w ∧
      (send (callAt (depth + 1)) p "first" []).Gives w (fun vs w' => ∃ v, vs = [v] ∧
        w'.Wraps r v (counted items 0)) ∧
      (send (callAt (depth + 1)) p "last" []).Gives w fun vs w' => ∃ v, vs = [v] ∧
        w'.Wraps r v (counted items (-1)) := by
  obtain ⟨q, hcontents⟩ := h.contents
  obtain ⟨cls, hcls⟩ := h.kind
  have hcount : (Lists.perform (callAt depth) r p .count []).run w = .ok [.ofNat items.length] w :=
    run_bind_of_ok hcontents
  have hmethod := h.methods ⟨"count", .exact 0, .list r .count⟩ (by simp [Lists.methods])
  refine ⟨(h.run_perform "count" .count depth (by simp [Lists.methods])).trans hcount,
    run_length hmethod rfl rfl depth hcount, ?_, ?_⟩
  · have hfirst : (send (callAt (depth + 1)) p "first" []).run w =
        (Lists.wrap r (counted items 0)).run w := by
      rw [counted_first]
      exact (h.run_perform "first" .first depth (by simp [Lists.methods])).trans
        (run_bind_of_ok hcontents)
    refine ((wrap_gives hcls _).of_run_eq hfirst).mono ?_ fun _ => id
    rintro _ _ ⟨v, hv, hwraps, -⟩
    exact ⟨v, hv, hwraps⟩
  · have hlast : (send (callAt (depth + 1)) p "last" []).run w =
        (Lists.wrap r (counted items (-1))).run w := by
      rw [counted_last]
      exact (h.run_perform "last" .last depth (by simp [Lists.methods])).trans
        (run_bind_of_ok hcontents)
    refine ((wrap_gives hcls _).of_run_eq hlast).mono ?_ fun _ => id
    rintro _ _ ⟨v, hv, hwraps, -⟩
    exact ⟨v, hv, hwraps⟩

/-- The table of objects has the object of each position one place further on. -/
theorem items_at [Library] (h : w.HasList r p items) (depth : Nat) :
    ∃ id w', (send (callAt (depth + 1)) p "items" []).run w = .ok [.table id] w' ∧
      ∀ i < items.length, ∃ v, (index (callAt (depth + 1)) trapped (.table id)
        (.ofNat (i + 1))).run w' = .ok v w' ∧ w'.Wraps r v (counted items i) := by
  obtain ⟨q, hcontents⟩ := h.contents
  obtain ⟨cls, hcls⟩ := h.kind
  obtain ⟨values, w₁, hnew, hvalues, -⟩ := (newObjects_gives hcls items).exists_ok
  have hnil : ∀ v ∈ values, v ≠ .nil := by
    refine ((List.forall₂_and_left _ _).1 (hvalues.imp fun v j hv => ⟨?_, hv⟩)).1
    obtain ⟨o, rfl, -⟩ := hv
    exact nofun
  refine ⟨w₁.tables.size, { w₁ with tables := w₁.tables.push (.ofList values) }, ?_,
    fun i hi => ?_⟩
  · rw [h.run_perform "items" .items depth (by simp [Lists.methods])]
    refine (run_bind_of_ok hcontents).trans ((run_bind_of_ok hnew).trans ?_)
    rfl
  · have hi' : i < values.length := by rwa [hvalues.length_eq]
    have hsmall : values.length < 0x8000000000000000 := by
      rw [hvalues.length_eq]
      exact h.small
    refine ⟨values[i], run_index_numbered (by simp) (Table.entries_ofList hnil) hsmall hi', ?_⟩
    rw [counted_ofNat hi]
    exact (hvalues.get hi' hi).extends (.pushTable w₁ _)

/-- A method without arguments of an object runs on its tree. -/
theorem run_object [Library] {w : World} {o : Instance} {j : Json} (name : String) (b : ObjectBody)
    (hmethods : ∀ m ∈ Objects.methods r, w.Answers o.cls m)
    (hm : ⟨name, .exact 0, .object r b⟩ ∈ Objects.methods r)
    (ho : w.registry.lookup o = .ok (.object j)) (depth : Nat) :
    (send (callAt (depth + 1)) o name []).run w = (Objects.perform r o b).run w ∧
      (Objects.objectOf o).run w = .ok j w :=
  ⟨run_send (hmethods _ hm) rfl [] rfl depth, run_bind_of_ok (run_lookup ho)⟩

/-- The table of names has the name of the object at each position. -/
theorem names_at [Library] (h : w.HasList r p items) (depth : Nat) :
    ∃ id w', (send (callAt (depth + 1)) p "names" []).run w = .ok [.table id] w' ∧
      ∀ i < items.length, ∃ v o w₁,
        (index (callAt (depth + 1)) trapped (.table id) (.ofNat (i + 1))).run w' = .ok v w' ∧
        (index (callAt (depth + 1)) trapped (.instance p) (.ofNat i)).run w = .ok (.instance o) w₁ ∧
        (send (callAt (depth + 1)) o "name" []).run w₁ = .ok [v] w₁ := by
  obtain ⟨q, hcontents⟩ := h.contents
  let names : List Value := items.map fun j => .text (Object.name j)
  have hnil : ∀ v ∈ names, v ≠ .nil := List.forall_mem_map.2 fun j _ => nofun
  refine ⟨w.tables.size, { w with tables := w.tables.push (.ofList names) }, ?_, fun i hi => ?_⟩
  · rw [h.run_perform "names" .names depth (by simp [Lists.methods])]
    exact run_bind_of_ok hcontents
  · have hlen : names.length = items.length := List.length_map _
    have hi' : i < names.length := by rwa [hlen]
    obtain ⟨o, w₁, hrun, ho, -, hmethods⟩ := h.object_at hi depth
    obtain ⟨hname, hobject⟩ :=
      run_object "name" .name hmethods (by simp [Objects.methods]) ho depth
    refine ⟨names[i], o, w₁, run_index_numbered (by simp) (Table.entries_ofList hnil)
      (by rw [hlen]; exact h.small) hi', hrun, ?_⟩
    rw [hname, Objects.perform, run_bind_of_ok hobject, List.getElem_map]
    rfl

/-- The table of trees has at each position what is read as the tree of its object. -/
theorem trees_at [Library] (h : w.HasList r p items) {session : Host}
    (hhost : w.host = some session) (hitems : ∀ j ∈ items, j.Canonical ∧ j.Bounded) (depth : Nat) :
    ∃ id w', (send (callAt (depth + 1)) p "to_lua" []).run w = .ok [.table id] w' ∧
      ∀ i < items.length, ∃ v o w₁ v' w₂ j,
        (index (callAt (depth + 1)) trapped (.table id) (.ofNat (i + 1))).run w' = .ok v w' ∧
        (index (callAt (depth + 1)) trapped (.instance p) (.ofNat i)).run w = .ok (.instance o) w₁ ∧
        (send (callAt (depth + 1)) o "to_lua" []).run w₁ = .ok [v'] w₂ ∧
        pivot w'.tables v = .ok j ∧ pivot w₂.tables v' = .ok j := by
  have htree : ∀ {w : World} (j : Json), w.host = some session →
      (treeValue j).run w = (build session.numberMode j).run w := fun j hhost =>
    (run_bind_of_ok (run_host hhost)).trans (fromJson_eq_build _ j _)
  have hread : ∀ j ∈ items, ReadsBack session.numberMode j :=
    fun j hj => build_reads (hitems j hj).1 (hitems j hj).2
  obtain ⟨q, hcontents⟩ := h.contents
  obtain ⟨_, w', hbuild, -⟩ := build_grows session.numberMode (.arr items) w
  obtain ⟨values, rfl, ht, hnil, hvalues⟩ := build_elements hread h.small hbuild
  refine ⟨w.tables.size, w', ?_, fun i hi => ?_⟩
  · rw [h.run_perform "to_lua" .tree depth (by simp [Lists.methods])]
    refine (run_bind_of_ok hcontents).trans ?_
    exact run_bind_of_ok ((htree _ hhost).trans hbuild)
  · have hi' : i < values.length := by rwa [hvalues.length_eq]
    obtain ⟨o, w₁, hrun, ho, hhost₁, hmethods⟩ := h.object_at hi depth
    obtain ⟨hmethod, hobject⟩ :=
      run_object "to_lua" .tree hmethods (by simp [Objects.methods]) ho depth
    obtain ⟨v', w₂, hbuild', -⟩ := build_grows session.numberMode items[i] w₁
    obtain ⟨-, hreads⟩ := hread items[i] (List.getElem_mem hi) w₁ w₂ v' hbuild'
    refine ⟨values[i], o, w₁, v', w₂, items[i].mapNumbers (Number.returned session.numberMode),
      run_index_numbered ht rfl (by rw [hvalues.length_eq]; exact h.small) hi', hrun, ?_,
      (hvalues.get hi' hi).pivot, hreads.pivot⟩
    rw [hmethod, Objects.perform, run_bind_of_ok hobject]
    exact run_bind_of_ok ((htree _ (hhost₁.trans hhost)).trans hbuild')

end World.HasList

end

/-! ## Sessions -/

/-- The classes of lists and objects have their methods from the start. -/
theorem installed_listMethods (r : Resource) :
    (∀ m ∈ Lists.methods r, (Engine.installed default).Provides r.listClass m) ∧
      ∀ m ∈ Objects.methods r, (Engine.installed default).Provides r.kind m := by
  have hall : ∀ r ∈ Resource.all,
      (∀ m ∈ Lists.methods r, (Engine.installed default).Provides r.listClass m) ∧
        ∀ m ∈ Objects.methods r, (Engine.installed default).Provides r.kind m := by
    decide +kernel
  exact hall r (by cases r <;> decide)

namespace Moment

variable {host : Host} {p : Instance} {q : Query} {items : List Json}

/-- Lists have their methods, and their objects have theirs, while no script changes the tables
of their classes. -/
theorem hasList [Library] (m : Moment host) {r : Resource}
    (hp : m.world.registry.lookup p = .ok (.list q items))
    (hlen : items.length < 0x8000000000000000)
    (hcls : m.world.registry.classId? r.listClass = some p.cls)
    (hlist : m.Unassigned r.listClass) (hkind : m.Unassigned r.kind) :
    m.world.HasList r p items where
  state := ⟨q, hp⟩
  small := hlen
  methods method hm := m.answers ((installed_listMethods r).1 method hm) hcls hlist
  kind := m.exists_class ((installed_listMethods r).2 ⟨"name", .exact 0, .object r .name⟩
    (by simp [Objects.methods]))
  objectMethods cls hcls method hm :=
    m.answers ((installed_listMethods r).2 method hm) hcls hkind

end Moment

/-- **The views of a list agree.** At every moment of a session, for a list of objects, at most
as many as 64 bits count, while no script has changed the tables of its class and of the class
of its objects:

* a whole number, an integer or a float of any size, gives the object at its position, from 0
  on or back from -1, and nil beyond the ends, in brackets and by `at`; it never fails;
* another number is refused by both;
* `count` and the length operator tell the number of the objects;
* `first` and `last` give what the positions 0 and -1 give;
* `items`, `names` and `to_lua` give tables that have, one place further on, the object of each
  position, its name, and a table that is read as the same tree as its own. -/
theorem views_agree [Library] {host : Host} (m : Moment host) {p : Instance} {q : Query}
    {items : List Json} (hp : m.world.registry.lookup p = .ok (.list q items))
    (hlen : items.length < 0x8000000000000000)
    (hown : ∀ r : Resource, m.world.registry.classId? r.listClass = some p.cls →
      m.Unassigned r.listClass ∧ m.Unassigned r.kind) (depth : Nat) :
    ∃ r : Resource, m.world.registry.classId? r.listClass = some p.cls ∧
      (∀ (key : Value) (k : Int), key.whole? = some k →
        (index (callAt (depth + 1)) trapped (.instance p) key).Gives m.world
          (fun v w => w.Wraps r v (counted items k)) ∧
        (send (callAt (depth + 1)) p "at" [key]).Gives m.world
          (fun vs w => ∃ v, vs = [v] ∧ w.Wraps r v (counted items k))) ∧
      (∀ x : Binary64, x.toInt? = none →
        (index (callAt (depth + 1)) trapped (.instance p) (.float x)).Declines m.world
          (.refused (.indexType "number")) ∧
        (send (callAt (depth + 1)) p "at" [.float x]).Declines m.world
          (.refused (.indexType "number"))) ∧
      (∃ n : Int64, n.toInt = items.length ∧
        (send (callAt (depth + 1)) p "count" []).run m.world = .ok [.int n] m.world ∧
        (length (callAt (depth + 1)) (.instance p)).run m.world = .ok (.int n) m.world) ∧
      (send (callAt (depth + 1)) p "first" []).Gives m.world
        (fun vs w => ∃ v, vs = [v] ∧ w.Wraps r v (counted items 0)) ∧
      (send (callAt (depth + 1)) p "last" []).Gives m.world
        (fun vs w => ∃ v, vs = [v] ∧ w.Wraps r v (counted items (-1))) ∧
      (∃ id w, (send (callAt (depth + 1)) p "items" []).run m.world = .ok [.table id] w ∧
        ∀ i < items.length, ∃ v, (index (callAt (depth + 1)) trapped (.table id)
          (.ofNat (i + 1))).run w = .ok v w ∧ w.Wraps r v (counted items i)) ∧
      (∃ id w, (send (callAt (depth + 1)) p "names" []).run m.world = .ok [.table id] w ∧
        ∀ i < items.length, ∃ v o w₁,
          (index (callAt (depth + 1)) trapped (.table id) (.ofNat (i + 1))).run w = .ok v w ∧
          (index (callAt (depth + 1)) trapped (.instance p) (.ofNat i)).run m.world =
            .ok (.instance o) w₁ ∧
          (send (callAt (depth + 1)) o "name" []).run w₁ = .ok [v] w₁) ∧
      ((∀ j ∈ items, j.Canonical ∧ j.Bounded) →
        ∃ id w, (send (callAt (depth + 1)) p "to_lua" []).run m.world = .ok [.table id] w ∧
          ∀ i < items.length, ∃ v o w₁ v' w₂ j,
            (index (callAt (depth + 1)) trapped (.table id) (.ofNat (i + 1))).run w = .ok v w ∧
            (index (callAt (depth + 1)) trapped (.instance p) (.ofNat i)).run m.world =
              .ok (.instance o) w₁ ∧
            (send (callAt (depth + 1)) o "to_lua" []).run w₁ = .ok [v'] w₂ ∧
            pivot w.tables v = .ok j ∧ pivot w₂.tables v' = .ok j) := by
  obtain ⟨r, hcls⟩ := m.shelved hp
  obtain ⟨hlist, hkind⟩ := hown r hcls
  obtain ⟨session, hhost⟩ := m.exists_session
  have h := m.hasList hp hlen hcls hlist hkind
  obtain ⟨hcount, hlength, hfirst, hlast⟩ := h.ends_of_list depth
  refine ⟨r, hcls, fun key k hkey => ?_, fun x hx => h.position_refused hx depth,
    ⟨.ofNat items.length, Int64.toInt_ofNat_of_lt hlen, hcount, hlength⟩, hfirst, hlast,
    h.items_at depth, h.names_at depth, fun hitems => h.trees_at hhost hitems depth⟩
  obtain ⟨hbrackets, hat⟩ := h.position hkey depth
  refine ⟨hbrackets.mono (fun _ _ h => h.1) fun _ => id, hat.mono ?_ fun _ => id⟩
  rintro _ _ ⟨v, hv, hwraps, -⟩
  exact ⟨v, hv, hwraps⟩

open Library.Standard

/-- A list of two trees: the last by -1, nothing at the float 2⁶³, no position for a half. -/
theorem views_agree_pair :
    ∃ (m : Moment default) (p : Instance) (r : Resource),
      m.world.registry.lookup p = .ok (.list .all [.str "a", .str "b"]) ∧
      (index (callAt 1) trapped (.instance p) (.int (-1))).Gives m.world
        (fun v w => w.Wraps r v (some (.str "b"))) ∧
      (send (callAt 1) p "at" [.float (Binary64.ofNat 0x8000000000000000)]).Gives m.world
        (fun vs w => ∃ v, vs = [v] ∧ w.Wraps r v none) ∧
      (index (callAt 1) trapped (.instance p) (.float ⟨0x3FE0000000000000⟩)).Declines m.world
        (.refused (.indexType "number")) := by
  obtain ⟨cls, hcls⟩ := (Moment.first default).listClass .pod
  obtain ⟨m, p, -, htables, -, hp⟩ :=
    (Moment.first default).exists_instance (.list .all [.str "a", .str "b"]) hcls rfl
      (.inr ⟨.pod, hcls⟩)
  have hown : ∀ name, m.Unassigned name := fun name cls c _ _ => by
    rw [htables]
    rfl
  obtain ⟨r, -, hwhole, hother, -⟩ :=
    views_agree m hp (by decide) (fun r _ => ⟨hown r.listClass, hown r.kind⟩) 0
  have hlast : counted [.str "a", .str "b"] (-1) = some (.str "b") := rfl
  have hbeyond : counted [.str "a", .str "b"] 0x8000000000000000 = none := rfl
  have hfloat : (Value.float (Binary64.ofNat 0x8000000000000000)).whole? =
      some 0x8000000000000000 := by
    decide +kernel
  exact ⟨m, p, r, hp, hlast ▸ (hwhole (.int (-1)) (-1) rfl).1, hbeyond ▸ (hwhole _ _ hfloat).2,
    (hother ⟨0x3FE0000000000000⟩ (by decide +kernel)).1⟩

end Script

end ClusterScript
