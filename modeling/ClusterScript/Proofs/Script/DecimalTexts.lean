import ClusterScript.Proofs.Number.Doubles
import ClusterScript.Proofs.Number.SixPlaces
import ClusterScript.Proofs.Script.Building
import ClusterScript.Proofs.Script.TableOrder

/-!
# Numbers as texts with six places

Where numbers become texts, an integer goes through the float nearest to it.
The text has all digits of that float, so it is exact up to `2^53` and for
every other integer that is a float; between two floats it is the text of the
nearer one, and integers with the same nearest float become the same text.

* `Json.Leads`: the keys from a tree to a part of it.
* `Value.behind`: what a script finds behind some keys.
* `fromJson_leaves`: what stands behind the keys of a leaf.
* `integers_rounded`: the texts of integers, behind all keys of a tree.
-/
namespace ClusterScript

open Script (Value)

/-! ## Keys to a leaf -/

/-- Keys lead from a tree to something in it, each of them to a part. -/
inductive Json.Leads : Json → List Value → Json → Prop
  | here (j : Json) : Leads j [] j
  | into {j part leaf : Json} {key : Value} {keys : List Value} (hpart : (key, part) ∈ j.parts)
      (h : Leads part keys leaf) : Leads j (key :: keys) leaf

namespace Script

/-- What a script finds in a value behind some keys. -/
def Value.behind (tables : Array Table) : Value → List Value → Value
  | v, [] => v
  | .table id, key :: keys => behind tables ((tables[id]?.getD .empty).get key) keys
  | _, _ :: _ => .nil

section

variable {mode : NumberMode} {w w' : World} {j leaf : Json} {v : Value} {keys : List Value}

/-- Behind the keys of each leaf of the tree stands the value of the leaf. -/
def HasLeaves (mode : NumberMode) : Saying := fun tables low v j =>
  ∀ heap : Array Table, (∀ i, low ≤ i → i < tables.size → heap[i]? = tables[i]?) →
    ∀ keys leaf, j.Leads keys leaf → leaf.shape? = none →
      v.behind heap keys = scalarValue mode leaf

theorem hasLeaves_lasting : (HasLeaves mode).Lasting := by
  constructor
  intro tables tables' low low' v j h hlow hsize hsame heap hheap
  refine h heap fun i hi hlt => ?_
  rw [hheap i (by omega) (by omega), hsame i hi hlt]

theorem leads_scalar (hscalar : j.shape? = none) (h : j.Leads keys leaf) :
    keys = [] ∧ leaf = j := by
  cases h with
  | here => exact ⟨rfl, rfl⟩
  | into hpart =>
    cases j with
    | arr => cases hscalar
    | obj => cases hscalar
    | _ => cases hpart

/-- An entry that matches a part is what stands at the key of the part. -/
theorem get_of_matched {P : Value → Json → Prop} {t : Table} {parts : List (Value × Json)}
    {key : Value} {part : Json}
    (hall : List.Forall₂ (fun e p => e.1 = p.1 ∧ P e.2 p.2) t.entries parts)
    (hkeys : parts.Pairwise fun p q => p.1 ≠ q.1) (hpart : (key, part) ∈ parts) :
    P (t.get key) part := by
  unfold Table.get
  generalize t.entries = entries at hall
  induction hall with
  | nil => cases hpart
  | @cons e p entries parts he _ ih =>
    obtain ⟨k, v⟩ := e
    obtain ⟨rfl, hv⟩ := he
    obtain ⟨hhead, hrest⟩ := List.pairwise_cons.1 hkeys
    rcases List.mem_cons.1 hpart with rfl | hpart
    · simpa [List.lookup_cons] using hv
    · have hne : (key == p.1) = false := beq_eq_false_iff_ne.2 (hhead _ hpart).symm
      simpa only [List.lookup_cons, hne] using ih hrest hpart

/-- What is built of a tree has its leaves. -/
theorem built_leaves (hc : j.Canonical) (hb : j.Bounded) : BuiltAs mode (HasLeaves mode) j := by
  induction j using Json.induct_parts with
  | scalar j hscalar =>
    intro w w' v hrun
    rw [build_scalar hscalar] at hrun
    cases hrun
    refine ⟨scalarValue_ne_nil hscalar, fun heap _ keys leaf hleads _ => ?_⟩
    obtain ⟨rfl, rfl⟩ := leads_scalar hscalar hleads
    rw [Value.behind]
  | container j s hshape ih =>
    intro w w' v hrun
    have hkeys := pairwise_parts hc hb
    obtain ⟨entries, rfl, ht, hall⟩ := built_container hasLeaves_lasting
      (fun p hp => ih p hp (hc.part hp) (hb.part hp)) hkeys hshape hrun
    refine ⟨by simp, fun heap hheap keys leaf hleads hleaf => ?_⟩
    cases hleads with
    | here => rw [hshape] at hleaf; cases hleaf
    | @into _ part _ key keys hpart hleads =>
      have hid : w.tables.size < w'.tables.size := (Array.getElem?_eq_some_iff.1 ht).1
      rw [Value.behind, hheap _ (Nat.le_refl _) hid, ht, Option.getD_some]
      have hheld := get_of_matched (t := ⟨entries, s = .array, 0⟩)
        (P := fun u p => u ≠ .nil ∧ HasLeaves mode w'.tables (w.tables.size + 1) u p)
        hall hkeys hpart
      exact hheld.2 heap (fun i hi hlt => hheap i (by omega) hlt) keys leaf hleads hleaf

/-- A script finds every leaf of a tree that was converted. -/
theorem fromJson_leaves (mode : NumberMode) (hc : j.Canonical) (hb : j.Bounded) (w : World) :
    ∃ v w', (fromJson mode j).run w = .ok v w' ∧
      ∀ keys leaf, j.Leads keys leaf → leaf.shape? = none →
        v.behind w'.tables keys = scalarValue mode leaf := by
  obtain ⟨v, w', hrun, -⟩ := build_grows mode j w
  obtain ⟨-, hleaves⟩ := built_leaves hc hb w w' v hrun
  exact ⟨v, w', (fromJson_eq_build mode j w).trans hrun, hleaves w'.tables fun _ _ _ => rfl⟩

end

/-! ## Integers -/

theorem numberValue_integer (n : WholeNumber) :
    numberValue .decimalString (.whole n) =
      .text (toString (Binary64.rounded n.val) ++ ".000000") := by
  show Value.text (Decimal.sixPlaces (Binary64.ofInt n.val)) = _
  rw [Decimal.sixPlaces_ofInt n.natAbs_lt]

theorem run_fromJson_number (mode : NumberMode) (n : Number) (w : World) :
    (fromJson mode (.num n)).run w = .ok (numberValue mode n) w := by
  rw [fromJson_eq_build]
  rfl

theorem text_places_inj {i k : Int} :
    Value.text (toString i ++ ".000000") = .text (toString k ++ ".000000") ↔ i = k := by
  rw [Value.text.injEq, Decimal.append_places_inj]

/-- **Integers become the texts of the nearest floats.** Converting succeeds; behind the keys of
each integer of the tree stands a text with the digits of the number that its nearest float stands
for, the even one of two. The digits are those of the integer itself exactly if it is a float, as
all up to `2^53` are; and two integers become the same text exactly if they are rounded to the
same number. -/
theorem integers_rounded (j : Json) (hc : j.Canonical) (hb : j.Bounded) (w : World) :
    ∃ v w', (fromJson .decimalString j).run w = .ok v w' ∧
      ∀ keys n, j.Leads keys (.num (.whole n)) →
        v.behind w'.tables keys = .text (toString (Binary64.rounded n.val) ++ ".000000") ∧
        (Binary64.ofInt n.val).Rounds n.val (Binary64.rounded n.val) ∧
        (v.behind w'.tables keys = .text (toString n.val ++ ".000000") ↔
          ∃ x : Binary64, x.value? = some (n.val : ℚ)) ∧
        (n.val.natAbs ≤ 2 ^ 53 →
          v.behind w'.tables keys = .text (toString n.val ++ ".000000")) ∧
        ∀ keys' n', j.Leads keys' (.num (.whole n')) →
          (v.behind w'.tables keys = v.behind w'.tables keys' ↔
            Binary64.rounded n.val = Binary64.rounded n'.val) := by
  obtain ⟨v, w', hrun, hleaves⟩ := fromJson_leaves .decimalString hc hb w
  have hstands : ∀ keys n, j.Leads keys (.num (.whole n)) →
      v.behind w'.tables keys = .text (toString (Binary64.rounded n.val) ++ ".000000") :=
    fun keys n hleads => (hleaves keys _ hleads rfl).trans (numberValue_integer n)
  refine ⟨v, w', hrun, fun keys n hleads => ?_⟩
  have hsize := n.natAbs_lt
  rw [hstands keys n hleads]
  refine ⟨rfl, Binary64.ofInt_rounds hsize, ?_, fun hsmall => ?_, fun keys' n' hleads' => ?_⟩
  · rw [text_places_inj, Binary64.rounded_eq_self_iff hsize]
  · rw [Binary64.rounded_of_small hsmall]
  · rw [hstands keys' n' hleads', text_places_inj]

/-- The first integer behind `2^53`, and the last one of 64 bits. -/
theorem integers_rounded_borders :
    ∃ v w', (fromJson .decimalString (.obj [("items", .arr [
        .num (.whole ⟨0x20000000000001, by decide, by decide⟩),
        .num (.whole ⟨0xFFFFFFFFFFFFFFFF, by decide, by decide⟩)])])).run default = .ok v w' ∧
      v.behind w'.tables [.text "items", .ofNat 1] = .text "9007199254740992.000000" ∧
      v.behind w'.tables [.text "items", .ofNat 2] = .text "18446744073709551616.000000" := by
  obtain ⟨v, w', hrun, hstands⟩ := integers_rounded (.obj [("items", .arr [
      .num (.whole ⟨0x20000000000001, by decide, by decide⟩),
      .num (.whole ⟨0xFFFFFFFFFFFFFFFF, by decide, by decide⟩)])])
    ⟨by simp [Json.Sorted], by simp [Json.CanonicalMembers, Json.CanonicalItems, Json.Canonical]⟩
    (by simp [Json.Bounded, Json.BoundedMembers, Json.BoundedItems]) default
  refine ⟨v, w', hrun, ?_, ?_⟩
  · exact (hstands _ _ (.into (.head _) (.into (.head _) (.here _)))).1
  · exact (hstands _ _ (.into (.head _) (.into (.tail _ (.head _)) (.here _)))).1

/-- There is no float between `2^53` and `2^53 + 2`, so that the integer there becomes the text of
the first of them and not its own. -/
theorem odd_integer_shares_text :
    (fromJson .decimalString (.num (.whole ⟨0x20000000000001, by decide, by decide⟩))).run default =
        .ok (.text "9007199254740992.000000") default ∧
      (fromJson .decimalString (.num (.whole ⟨0x20000000000000, by decide, by decide⟩))).run
        default = .ok (.text "9007199254740992.000000") default ∧
      "9007199254740992.000000" ≠ toString (0x20000000000001 : Int) ++ ".000000" := by
  have hodd : numberValue .decimalString (.whole ⟨0x20000000000001, by decide, by decide⟩) =
      .text "9007199254740992.000000" := by decide
  have heven : numberValue .decimalString (.whole ⟨0x20000000000000, by decide, by decide⟩) =
      .text "9007199254740992.000000" := by decide
  exact ⟨by rw [run_fromJson_number, hodd], by rw [run_fromJson_number, heven], by decide⟩

end Script

end ClusterScript
