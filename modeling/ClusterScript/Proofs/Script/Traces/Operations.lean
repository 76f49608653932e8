import ClusterScript.Proofs.Script.Traces.Actions

/-!
# Operations on values as acts

Showing a value, reading or setting a member of one and failing with one may
call the script, whose calls are traced.
-/
namespace ClusterScript.Script

/-- A caller whose calls are all traced. -/
def Caller.Traced [Library] (call : Caller) : Prop := ∀ f args, (call f args).Traced

section

variable [Library] {call : Caller} (hcall : call.Traced)

open Run.Traced

theorem classMember_traced (cls : Nat) (name : String) : (classMember cls name).Traced := by
  refine registry.bind fun _ => (lift _).bind fun _ => (getIn _ _).bind fun v => ?_
  split
  · exact pure _
  · split
    · exact pure _
    · exact fault _

theorem textResult_traced (values : List Value) : (textResult values).Traced := by
  unfold textResult
  split
  · exact pure _
  · exact fault _

include hcall

theorem displayBy_traced (v : Value) : (displayBy call v).Traced := by
  unfold displayBy
  split
  case h_3 i =>
    refine (classMember_traced _ _).bind fun member => ?_
    cases member with
    | some f => exact (hcall _ _).bind fun _ => (textResult_traced _).bind fun _ => pure _
    | none => exact registry.bind fun _ => (lift _).bind fun _ => pure _
  all_goals exact pure _

theorem raisedText_traced (v : Value) : (raisedText call v).Traced :=
  ((displayBy_traced hcall v).tryCatch fun e => by
    cases e with
    | overflowed => exact stop _
    | _ => exact pure _).bind fun _ => pure _

theorem faultOf_traced (v : Value) : (faultOf call v).Traced := by
  unfold faultOf
  split
  · exact pure _
  · exact (raisedText_traced hcall _).bind fun _ => pure _

theorem callFromHost_traced : Caller.Traced (callFromHost call) := fun f args =>
  (hcall f args).tryCatch fun e => by
    cases e with
    | raised v => exact (faultOf_traced hcall v).bind fun _ => fault _
    | exhausted => exact stop _
    | overflowed => exact stop _

theorem display_traced (v : Value) : (display call v).Traced :=
  displayBy_traced (callFromHost_traced hcall) v

omit hcall in
/-- A trap makes a key, tells of a tally, or fails. -/
theorem trap_traced (i : Instance) (name : String) :
    (do match ((← Run.registry).classes[i.cls]?).bind (·.trap) with
      | some t => trapped t i name
      | none => return .nil : Run Value).Traced := by
  intro w hw
  refine .bind_of_ok Run.run_registry ?_
  cases hc : w.registry.classes[i.cls]? with
  | none => exact .pure (.refl w)
  | some c =>
    dsimp only [Option.bind_some]
    cases htrap : c.trap with
    | none => exact .pure (.refl w)
    | some t =>
      cases t with
      | key => exact Selectors.collectorKey_traced i name w hw
      | tally => exact Tally.member_traced i name w hw
      | path kind =>
        have h := Selectors.extendPath_ends kind i name w
        refine ⟨fun v w' hrun => ?_, fun e w' hrun => h.error e w' hrun ▸ .refl w⟩
        obtain ⟨_, _, key, -, rfl, -⟩ := h.ok v w' hrun
        exact .of_step (.extended hc htrap hrun) rfl rfl rfl

/-- Positions are left to the class. -/
theorem position_traced (i : Instance) (key : Value) :
    (do match ← classMember i.cls "[]" with
      | some f => return firstOf (← callFromHost call f [.instance i, key])
      | none => return .nil : Run Value).Traced := by
  refine (classMember_traced _ _).bind fun member => ?_
  cases member with
  | some f => exact (callFromHost_traced hcall _ _).bind fun _ => pure _
  | none => exact pure _

omit hcall in
/-- Names are those of members, or left to the trap. -/
theorem named_traced (i : Instance) (key : Value) :
    (do match ← Run.lift key.hostText with
      | none => return .nil
      | some name =>
        match ← classMember i.cls name with
        | some f => return f
        | none =>
          match ((← Run.registry).classes[i.cls]?).bind (·.trap) with
          | some t => trapped t i name
          | none => return .nil : Run Value).Traced := by
  refine (lift _).bind fun text => ?_
  cases text with
  | none => exact pure _
  | some name =>
    refine (classMember_traced _ _).bind fun member => ?_
    cases member with
    | some f => exact pure _
    | none => exact trap_traced i name

theorem indexInstance_traced (i : Instance) (key : Value) :
    (indexInstance call trapped i key).Traced := by
  cases key with
  | int _ => exact position_traced hcall i _
  | float _ => exact position_traced hcall i _
  | text _ => exact named_traced i _
  | bytes _ => exact named_traced i _
  | _ => exact pure _

theorem index_traced (v key : Value) : (index call trapped v key).Traced := by
  unfold index
  split
  · split
    · exact getIn _ _
    · exact pure _
  · exact indexInstance_traced hcall _ _
  · split <;> exact pure _
  · split <;> exact pure _
  · exact pure _
  · exact complain _

omit hcall in
theorem assignIndex_traced (v key value : Value) : (assignIndex v key value).Traced := by
  unfold assignIndex
  split
  · split
    · exact setIn _ _ _
    · exact complain _
  · exact complain _

theorem length_traced (v : Value) : (length call v).Traced := by
  unfold length
  split
  · exact pure _
  · exact pure _
  · exact (table _).bind fun _ => pure _
  · refine (classMember_traced _ _).bind fun member => ?_
    cases member with
    | some f => exact (callFromHost_traced hcall _ _).bind fun _ => pure _
    | none => exact registry.bind fun _ => (lift _).bind fun _ => refuse _
  · exact complain _

omit hcall in
theorem concat_traced (a b : Value) : (concat a b).Traced := by
  unfold concat
  split
  · exact pure _
  · exact pure _
  · exact complain _
  · exact complain _

end

end ClusterScript.Script
