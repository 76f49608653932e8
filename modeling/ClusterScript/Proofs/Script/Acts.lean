import ClusterScript.Proofs.Script.Atomicity
import ClusterScript.Proofs.Script.Courses
import ClusterScript.Proofs.Script.LogCalls

/-!
# Deeds and calls on handles of logs

Deeds do not tell what a log was read for. So what scripts do is told once more,
with each call on a handle as a whole: nothing else asks for a log, or changes
the text that a handle keeps.

* `World.Leads`: some founded deeds lead from one world to another.
* `Logs.perform_leads`: a call on a handle is such deeds, and they change no
  other instance.
* `Act`, `Acts`: other deeds and whole calls, one after the other.
* `Acts.leads`: the deeds that acts are.
* `World.Does`: some acts lead from one world to another.
-/
namespace ClusterScript.Script

/-- An action ends in a world, with a value or without one. -/
def Run.Reaches {α : Type} (act : Run α) (w w' : World) : Prop :=
  (∃ v, act.run w = .ok v w') ∨ ∃ e, act.run w = .error e w'

theorem Run.Reaches.of_ends {α : Type} {act : Run α} {w w' : World} {P : World → Prop}
    (h : act.Reaches w w') (hends : act.Ends w (fun _ => P) P) : P w' := by
  obtain ⟨v, hrun⟩ | ⟨e, hrun⟩ := h
  · exact hends.ok v w' hrun
  · exact hends.error e w' hrun

/-! ## Deeds that lead to a world -/

/-- Some founded deeds lead from one world to another. -/
def World.Leads [Library] (w w' : World) : Prop := ∃ deeds, Course w deeds w'

/-- Some founded deeds that change one instance at most lead from one world to another. -/
def World.LeadsOn [Library] (i : Instance) (w w' : World) : Prop :=
  ∃ deeds, Course w deeds w' ∧ ∀ j state, .changed j state ∈ deeds → j = i

section

variable [Library] {w w₁ w' : World} {d : Deed} {i : Instance}

namespace World.Leads

theorem refl (w : World) : w.Leads w := ⟨[], .refl w⟩

theorem trans (h : w.Leads w₁) (h' : w₁.Leads w') : w.Leads w' := by
  obtain ⟨earlier, hearlier⟩ := h
  obtain ⟨later, hlater⟩ := h'
  exact ⟨later ++ earlier, hearlier.trans hlater⟩

theorem of_founded (h : Step w d w') (hfounded : d.Founded w) : w.Leads w' :=
  ⟨[d], .single h hfounded⟩

theorem carries (h : w.Leads w') (hw : w.Furnished) : w.registry.Carries w'.registry := by
  obtain ⟨deeds, hcourse⟩ := h
  exact hcourse.steps.carries hw

theorem furnished (h : w.Leads w') (hw : w.Furnished) : w'.Furnished := hw.carries (h.carries hw)

end World.Leads

namespace World.LeadsOn

theorem refl (i : Instance) (w : World) : w.LeadsOn i w := ⟨[], .refl w, by simp⟩

/-- One more deed, which changes this instance or none. -/
theorem step (h : w.LeadsOn i w₁) (hstep : Step w₁ d w') (hfounded : d.Founded w₁)
    (hd : ∀ j state, d = .changed j state → j = i) : w.LeadsOn i w' := by
  obtain ⟨deeds, hcourse, hdeeds⟩ := h
  refine ⟨d :: deeds, .step hcourse hstep hfounded, fun j state hmem => ?_⟩
  rcases List.mem_cons.1 hmem with heq | hmem
  · exact hd j state heq.symm
  · exact hdeeds j state hmem

/-- What concerns neither the registry nor the session. -/
theorem own (h : w.LeadsOn i w₁) (hregistry : w'.registry = w₁.registry)
    (hhost : w'.host = w₁.host) : w.LeadsOn i w' :=
  h.step (.own hregistry hhost) (.of_none rfl rfl) nofun

theorem leads (h : w.LeadsOn i w') : w.Leads w' := by
  obtain ⟨deeds, hcourse, -⟩ := h
  exact ⟨deeds, hcourse⟩

end World.LeadsOn

end

/-! ## Calls on handles -/

namespace Logs

open Run

section

variable [Library] {w₀ w : World} {i : Instance}

/-- Reading a log asks for it, and then the handle keeps it. -/
theorem download_leads (h : w₀.LeadsOn i w) :
    (download i).Ends w (fun _ => w₀.LeadsOn i) (w₀.LeadsOn i) := by
  refine .bind (P := fun found w' => w' = w ∧
    w.registry.lookup i = .ok (.logs found.1 found.2.1 found.2.2))
    (contents_ends (fun _ _ _ hi => ⟨rfl, hi⟩) h) ?_
  rintro ⟨ns, pod, cached⟩ w ⟨rfl, hi⟩
  have hkept : w.Addresses ns := .kept hi rfl
  have hasked : ∀ session, w.host = some session → w₀.LeadsOn i
      { w with host := some { session with cluster := (session.cluster.logs ns pod).2 } } := by
    intro session hhost
    have hfounded : (Deed.asked (.logs ns pod)).Founded w :=
      .of_names (fun _ hns => Option.some.inj hns ▸ hkept) rfl
    exact h.step (.asked hhost) hfounded nofun
  refine .bind (P := fun _ w₁ => w₀.LeadsOn i w₁ ∧ w.Stays w₁)
    (Ends.askCluster (fun session _ hhost _ => ⟨hasked session hhost, rfl, by rw [hhost]; rfl⟩)
      (fun session _ hhost _ => hasked session hhost) h) ?_
  rintro text w₁ ⟨hlead, hstays⟩
  have hi₁ : w₁.registry.lookup i = .ok (.logs ns pod cached) := by rw [hstays.registry, hi]
  have hfounded : (Deed.changed i (.logs ns pod (some text))).Founded w₁ :=
    .of_names (fun _ hns => Option.some.inj hns ▸ hkept.stays hstays) rfl
  have hchanged : w₀.LeadsOn i
      { w₁ with registry := w₁.registry.update i (.logs ns pod (some text)) } := by
    refine hlead.step (.changed hi₁ .logs) hfounded fun j state heq => ?_
    cases heq
    rfl
  exact .of_ok rfl hchanged

theorem textOf_leads (h : w₀.LeadsOn i w) :
    (textOf i).Ends w (fun _ => w₀.LeadsOn i) (w₀.LeadsOn i) := by
  refine .bind (P := fun _ => w₀.LeadsOn i) (contents_ends (fun _ _ _ _ => h) h) ?_
  rintro ⟨ns, pod, cached⟩ w h
  cases cached with
  | some text => exact .pure h
  | none => exact download_leads h

theorem grep_leads (h : w₀.LeadsOn i w) (args : List Value) :
    (grep i args).Ends w (fun _ => w₀.LeadsOn i) (w₀.LeadsOn i) := by
  unfold grep
  split
  · exact .refuse h
  · refine .lift_bind (fun ps _ => ?_) h
    refine .bind (P := fun _ => w₀.LeadsOn i) (contents_ends (fun _ _ _ _ => h) h) ?_
    exact fun _ _ h => .bind (textOf_leads h) fun _ _ h => .pure h

/-- A call on a handle is done by deeds that change no other instance, however it ends. -/
theorem perform_leads (i : Instance) (b : LogBody) (args : List Value) (w : World) :
    (perform i b args).Ends w (fun _ => w.LeadsOn i) (w.LeadsOn i) := by
  have hstart := World.LeadsOn.refl i w
  cases b with
  | refresh => exact .bind (download_leads hstart) fun _ _ h => .pure h
  | describe =>
    exact .bind (P := fun _ => w.LeadsOn i) (contents_ends (fun _ _ _ _ => hstart) hstart)
      fun _ _ h => .pure h
  | text => exact .bind (textOf_leads hstart) fun _ _ h => .pure h
  | lines => exact .bind (textOf_leads hstart) fun _ _ h => .of_ok rfl (h.own rfl rfl)
  | puts => exact .bind (textOf_leads hstart) fun _ _ h => .of_ok rfl (h.own rfl rfl)
  | grep => exact .bind (grep_leads hstart args) fun _ _ h => .of_ok rfl (h.own rfl rfl)

end

end Logs

/-! ## Acts -/

/-- A deed asks for a log, or changes what a handle keeps. -/
def Deed.ofLog : Deed → Bool
  | .asked (.logs _ _) | .changed _ (.logs _ _ _) => true
  | _ => false

/-- What scripts do, with each call on a handle as a whole. -/
inductive Act
  | deed (d : Deed)
  /-- A call on a handle, with what the cluster answered if it was asked. -/
  | logs (i : Instance) (b : LogBody) (args : List Value) (asked : Option (Except Fault String))

/-- Deeds that concern no log, and calls on handles, one after the other, the latest first. -/
inductive Acts [Library] : World → List Act → World → Prop
  | refl (w : World) : Acts w [] w
  | deed {w w₁ w' : World} {acts : List Act} {d : Deed} :
      Acts w acts w₁ → Step w₁ d w' → d.Founded w₁ → d.ofLog = false →
        Acts w (.deed d :: acts) w'
  | logs {w w₁ w' : World} {acts : List Act} {i : Instance} {b : LogBody} {args : List Value} :
      Acts w acts w₁ → (Logs.perform i b args).Reaches w₁ w' →
        Acts w (.logs i b args (Logs.answer w₁ i b args) :: acts) w'

/-- Some acts lead from one world to another. -/
def World.Does [Library] (w w' : World) : Prop := ∃ acts, Acts w acts w'

section

variable [Library] {w w₁ w' : World} {earlier later acts : List Act} {d : Deed}

namespace Acts

theorem trans (h : Acts w earlier w₁) (h' : Acts w₁ later w') :
    Acts w (later ++ earlier) w' := by
  induction h' with
  | refl => exact h
  | deed _ hstep hfounded hd ih => exact .deed ih hstep hfounded hd
  | logs _ hreaches ih => exact .logs ih hreaches

/-- What happens in a part of the time is acts too. -/
theorem split (h : Acts w (later ++ earlier) w') :
    ∃ w₁, Acts w earlier w₁ ∧ Acts w₁ later w' := by
  induction later generalizing w' with
  | nil => exact ⟨w', h, .refl w'⟩
  | cons act later ih =>
    cases h with
    | deed hbefore hstep hfounded hd =>
      obtain ⟨w₁, hearlier, hlater⟩ := ih hbefore
      exact ⟨w₁, hearlier, .deed hlater hstep hfounded hd⟩
    | logs hbefore hreaches =>
      obtain ⟨w₁, hearlier, hlater⟩ := ih hbefore
      exact ⟨w₁, hearlier, .logs hlater hreaches⟩

/-- The deeds that acts are. -/
theorem leads (h : Acts w acts w') : w.Leads w' := by
  induction h with
  | refl => exact .refl w
  | deed _ hstep hfounded _ ih => exact ih.trans (.of_founded hstep hfounded)
  | @logs _ _ _ i b args _ hreaches ih =>
    exact ih.trans (hreaches.of_ends (Logs.perform_leads i b args _)).leads

end Acts

namespace World.Does

theorem refl (w : World) : w.Does w := ⟨[], .refl w⟩

theorem trans (h : w.Does w₁) (h' : w₁.Does w') : w.Does w' := by
  obtain ⟨earlier, hearlier⟩ := h
  obtain ⟨later, hlater⟩ := h'
  exact ⟨later ++ earlier, hearlier.trans hlater⟩

theorem of_founded (h : Step w d w') (hfounded : d.Founded w) (hd : d.ofLog = false) :
    w.Does w' :=
  ⟨[.deed d], .deed (.refl w) h hfounded hd⟩

/-- A deed that names no namespace, is no match and concerns no log. -/
theorem of_step (h : Step w d w') (hnone : d.namespace? = none) (hmatch : d.match? = none)
    (hd : d.ofLog = false) : w.Does w' :=
  .of_founded h (.of_none hnone hmatch) hd

/-- What concerns neither the registry nor the session. -/
theorem own (hregistry : w'.registry = w.registry) (hhost : w'.host = w.host) : w.Does w' :=
  .of_step (.own hregistry hhost) rfl rfl rfl

theorem leads (h : w.Does w') : w.Leads w' := by
  obtain ⟨acts, hacts⟩ := h
  exact hacts.leads

theorem carries (h : w.Does w') (hw : w.Furnished) : w.registry.Carries w'.registry :=
  h.leads.carries hw

theorem furnished (h : w.Does w') (hw : w.Furnished) : w'.Furnished := h.leads.furnished hw

end World.Does

end

end ClusterScript.Script
