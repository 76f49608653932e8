import ClusterScript.Proofs.Script.MatchBlocks
import ClusterScript.Proofs.Script.Tables

/-!
# Operands that are written out

An operand of a match may be written out in a block: as a scalar, or as a list
of operands. Evaluating it makes a table for each list and nothing else, and
flattening takes its scalars from left to right.

* `writtenAll`: the texts of written operands.
* `operandsFit_of_written`: such operands fit their match.
-/
namespace ClusterScript.Script

/-- The value of a scalar that is written out. -/
def writtenScalar : Expr → Option Value
  | .text s => some (.text s)
  | .bytes b => some (.ofBytes b)
  | .int i => some (.int i)
  | .float x => some (.float x)
  | .bool b => some (.bool b)
  | _ => none

/-- The text of a scalar, if it is an operand. -/
def scalarTexts (v : Value) : Option (List String) :=
  match operandText v with
  | .ok s => some [s]
  | .error _ => none

mutual

/-- The texts of an operand that is written out. -/
def writtenTexts : Expr → Option (List String)
  | .list items => if items.length < 0x8000000000000000 then writtenAll items else none
  | e => (writtenScalar e).bind scalarTexts

def writtenAll : List Expr → Option (List String)
  | [] => some []
  | e :: rest => do
    let first ← writtenTexts e
    let more ← writtenAll rest
    return first ++ more

end

/-- From a world on, flattening gives these texts if tables may nest as deep as there are
tables. -/
def World.Reads (w : World) (read : Array Table → Nat → Except FlattenStop (List String))
    (texts : List String) : Prop :=
  ∀ tables depth, (∀ (i : Nat) (t : Table), w.tables[i]? = some t → tables[i]? = some t) →
    w.tables.size ≤ depth → read tables depth = .ok texts

section

variable {w w' : World} {v : Value} {vs : List Value} {texts first more : List String}

theorem World.Reads.extends {read : Array Table → Nat → Except FlattenStop (List String)}
    (h : w.Reads read texts) (hw : w.Extends (fun _ => True) w') : w'.Reads read texts :=
  fun tables depth htables hdepth =>
    h tables depth (fun i t ht => htables i t (hw.tables i t trivial ht))
      (Nat.le_trans hw.size hdepth)

theorem World.Reads.cons (hfirst : w.Reads (flatten · · v) first)
    (hmore : w.Reads (flattenAll · · vs) more) :
    w.Reads (flattenAll · · (v :: vs)) (first ++ more) := by
  intro tables depth htables hdepth
  have hv : flatten tables depth v = .ok first := hfirst tables depth htables hdepth
  have hvs : flattenAll tables depth vs = .ok more := hmore tables depth htables hdepth
  show flattenAll tables depth (v :: vs) = _
  rw [flattenAll, hv, hvs]
  rfl

/-- A new table of values is read as these. -/
theorem World.Reads.push (h : w.Reads (flattenAll · · vs) texts)
    (hlen : vs.length < 0x8000000000000000) (hnil : ∀ v ∈ vs, v ≠ .nil) :
    World.Reads { w with tables := w.tables.push (.ofList vs) }
      (flatten · · (.table w.tables.size)) texts := by
  intro tables depth htables hdepth
  rw [Array.size_push] at hdepth
  obtain ⟨depth, rfl⟩ := Nat.exists_eq_add_of_le' (Nat.le_trans (Nat.le_add_left 1 _) hdepth)
  have htable : tables[w.tables.size]? = some (.ofList vs) := htables _ _ (by simp)
  simp only [flatten, htable, Option.getD_some, Table.hasOtherKeys_ofList hlen hnil,
    Table.sequence_ofList hlen hnil]
  exact h tables depth (fun i t ht => htables i t (Registry.getElem?_push_old ht _)) (by omega)

theorem reads_scalar (h : scalarTexts v = some texts) (w : World) :
    v ≠ .nil ∧ w.Reads (flatten · · v) texts := by
  unfold scalarTexts at h
  split at h
  · next s hs =>
    cases h
    cases v with
    | table id => cases hs
    | nil => cases hs
    | _ => exact ⟨by simp, fun _ _ _ _ => by simp only [flatten, hs]; rfl⟩
  · cases h

theorem scalar_written {call : Caller} {locals : Locals} {e : Expr}
    (he : writtenScalar e = some v) (w : World)
    (h : (some v).bind scalarTexts = some texts) :
    (results call locals e).Gives w fun vs w' => w.Unreported w' ∧
      ∃ v, vs = [v] ∧ v ≠ .nil ∧ w'.Reads (flatten · · v) texts := by
  have hrun : (results call locals e).run w = .ok [v] w := by
    cases e <;> cases he <;> rw [results] <;> rfl
  exact .of_ok hrun ⟨.refl w, v, rfl, reads_scalar h w⟩

mutual

theorem results_written {call : Caller} {locals : Locals} :
    ∀ (e : Expr) {texts : List String} (w : World), writtenTexts e = some texts →
      (results call locals e).Gives w fun vs w' => w.Unreported w' ∧
        ∃ v, vs = [v] ∧ v ≠ .nil ∧ w'.Reads (flatten · · v) texts
  | e, texts, w, h => by
    cases e with
    | list items =>
      rw [writtenTexts] at h
      split at h
      · next hlen =>
        rw [results]
        refine .bind (valuesOf_written items w h) ?_
        intro vs w₁ hend
        obtain ⟨hw₁, hvs, hnil, hreads⟩ := hend
        have hpush := hreads.push (by omega) hnil
        refine .bind (.of_ok (P := fun id w' => w.Unreported w' ∧
          w'.Reads (flatten · · (.table id)) texts) (Run.run_newTable _) ⟨?_, hpush⟩) ?_
        · exact hw₁.trans ⟨.pushTable w₁ _, rfl⟩
        · exact fun id w' h => .pure ⟨h.1, _, rfl, by simp, h.2⟩
      · cases h
    | text s => exact scalar_written rfl w h
    | bytes b => exact scalar_written rfl w h
    | int i => exact scalar_written rfl w h
    | float x => exact scalar_written rfl w h
    | bool b => exact scalar_written rfl w h
    | _ => cases h

theorem valuesOf_written {call : Caller} {locals : Locals} :
    ∀ (es : List Expr) {texts : List String} (w : World), writtenAll es = some texts →
      (valuesOf call locals es).Gives w fun vs w' => w.Unreported w' ∧
        vs.length = es.length ∧ (∀ v ∈ vs, v ≠ .nil) ∧ w'.Reads (flattenAll · · vs) texts
  | [], texts, w, h => by
    cases h
    rw [valuesOf]
    exact .pure ⟨.refl w, rfl, by simp, fun tables depth _ _ => by
      show flattenAll tables depth [] = _
      rw [flattenAll]⟩
  | e :: rest, texts, w, h => by
    rw [writtenAll] at h
    obtain ⟨first, hfirst, h⟩ := Option.bind_eq_some_iff.1 h
    obtain ⟨more, hmore, h⟩ := Option.bind_eq_some_iff.1 h
    cases h
    rw [valuesOf]
    refine .bind (results_written e w hfirst) ?_
    intro _ w₁ hend
    obtain ⟨hw₁, v, rfl, hv, hreads⟩ := hend
    refine .bind (valuesOf_written rest w₁ hmore) ?_
    intro vs w₂ hend
    obtain ⟨hw₂, hlen, hnil, hrest⟩ := hend
    refine .pure ⟨hw₁.trans hw₂, by simp [hlen], ?_, (hreads.extends hw₂.ext).cons hrest⟩
    simpa [firstOf] using ⟨hv, hnil⟩

end

/-- Operands that are written out fit the match whose values they come to. -/
theorem operandsFit_of_written {call : Caller} {q : String} {locals : Locals} {m : Match}
    (h : writtenAll m.args = some m.expression.values) (w : World) :
    m.OperandsFit call w q locals := by
  intro cell w₁ _
  refine (valuesOf_written m.args w₁ h).weaken ?_
  intro vs w₂ hend
  obtain ⟨hw₂, -, -, hreads⟩ := hend
  exact ⟨hw₂, hreads w₂.tables (w₂.tables.size + 1) (fun _ _ h => h) (by omega)⟩

end

end ClusterScript.Script
