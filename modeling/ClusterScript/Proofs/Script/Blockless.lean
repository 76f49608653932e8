import ClusterScript.Proofs.Script.Endings
import ClusterScript.Proofs.Script.Parameters
import ClusterScript.Script.Lists

/-!
# Queries without blocks

Arguments that hold no function decode to arguments without blocks. Such a
query is read from the tables as they are: nothing is called on the way, and
nothing changes.

* `Value.HoldsNoFunction`: no function, and no table with a function in it.
* `queryOf_quiet`: reading the query has no effect.
-/
namespace ClusterScript

open Script

/-- A text, or nothing. -/
def Query.Literal {β : Type} (source : Option (Query.Source β)) : Prop :=
  ∀ b, source ≠ some (.block b)

/-- An argument whose selectors are texts. -/
def Query.Argument.Blockless {β : Type} : Query.Argument β → Prop
  | .block _ => False
  | .params labels fields => Query.Literal labels ∧ Query.Literal fields
  | _ => True

namespace Script

/-- Neither a function nor a table that has one among its values. -/
def Value.HoldsNoFunction (tables : Array Table) (v : Value) : Prop :=
  v.isFunction = false ∧
    ∀ id, v = .table id → ∀ e ∈ (tables[id]?.getD .empty).entries, e.2.isFunction = false

section

variable {tables : Array Table} {v : Value} {args : List Value}

/-! ## Decoding -/

namespace ParamSchema

/-- Only a function is read as a block. -/
theorem parseValue_ne_block {key : String} {type : ParamType} {p : ParamValue}
    (h : parseValue tables key type v = .ok p) (hv : v.isFunction = false) (f : Value) :
    p ≠ .block f := by
  unfold parseValue at h
  rintro rfl
  split at h
  · cases h
  · cases h
  · obtain ⟨_, -, h⟩ := bind_eq_ok h
    cases h
  · obtain ⟨_, -, h⟩ := bind_eq_ok h
    cases h
  · cases hv
  · cases hv
  · obtain ⟨_, -, h⟩ := bind_eq_ok h
    cases h
  · dsimp only at h
    split at h
    · cases h
    · obtain ⟨_, -, h⟩ := bind_eq_ok h
      cases h
  · cases h

theorem parseEntry_ne_block {schema : ParamSchema} {k : Value} {p : String × ParamValue}
    (h : schema.parseEntry tables k v = .ok p) (hv : v.isFunction = false) (f : Value) :
    p.2 ≠ .block f := by
  obtain ⟨name, -, h⟩ := bind_eq_ok h
  cases name with
  | none => cases h
  | some name =>
    simp only at h
    split at h
    · cases h
    · obtain ⟨value, hvalue, h⟩ := bind_eq_ok h
      cases h
      exact parseValue_ne_block hvalue hv f

theorem parseEntries_ne_block {schema : ParamSchema} {f : Value} :
    ∀ {entries : List (Value × Value)} {read params : Params},
      schema.parseEntries tables entries read = .ok params →
        (∀ e ∈ entries, e.2.isFunction = false) → (∀ p ∈ read, p.2 ≠ .block f) →
          ∀ p ∈ params, p.2 ≠ .block f
  | [], read, params, h, _, hread => by
    cases h
    exact hread
  | (k, v) :: rest, read, params, h, hentries, hread => by
    obtain ⟨⟨key, value⟩, hentry, h⟩ := bind_eq_ok h
    refine parseEntries_ne_block h (fun e he => hentries e (List.mem_cons_of_mem _ he)) ?_
    intro p hp
    rcases mem_insertByName hp with rfl | hp
    · exact parseEntry_ne_block hentry (hentries (k, v) (by simp)) f
    · exact hread p hp

theorem parse_ne_block {schema : ParamSchema} {t : Table} {params : Params}
    (h : schema.parse tables t = .ok params) (ht : ∀ e ∈ t.entries, e.2.isFunction = false)
    (f : Value) : ∀ p ∈ params, p.2 ≠ .block f := by
  obtain ⟨read, hread, h⟩ := bind_eq_ok h
  have hblock := parseEntries_ne_block (f := f) hread ht (by simp)
  split at h
  · cases h
  · cases h
    exact hblock

end ParamSchema

theorem literal_sourceOf {params : Params} (h : ∀ f, ∀ p ∈ params, p.2 ≠ .block f)
    (key : String) : Query.Literal (sourceOf params key) := by
  intro b hsource
  unfold sourceOf at hsource
  split at hsource
  · cases hsource
  · next f hlookup =>
    obtain ⟨before, rest, rfl, -⟩ := List.lookup_eq_some_iff.1 hlookup
    exact h f (key, .block f) (by simp) rfl
  · cases hsource

theorem blockless_queryArgument {a : Query.Argument Value}
    (h : queryArgument tables v = .ok a) (hv : v.HoldsNoFunction tables) : a.Blockless := by
  obtain ⟨hfunction, hentries⟩ := hv
  unfold queryArgument at h
  split at h
  · cases h
    trivial
  · obtain ⟨_, -, h⟩ := bind_eq_ok h
    cases h
    trivial
  · cases hfunction
  · cases hfunction
  · dsimp only at h
    split at h
    · cases h
      trivial
    · obtain ⟨params, hparams, h⟩ := bind_eq_ok h
      cases h
      have hblock := fun f => ParamSchema.parse_ne_block hparams (hentries _ rfl) f
      exact ⟨literal_sourceOf hblock _, literal_sourceOf hblock _⟩
  · cases h
    trivial

theorem blockless_queryArguments : ∀ {args : List Value} {decoded : List (Query.Argument Value)},
    queryArguments tables args = .ok decoded → (∀ v ∈ args, v.HoldsNoFunction tables) →
      ∀ a ∈ decoded, a.Blockless
  | [], decoded, h, _ => by
    cases h
    simp
  | v :: rest, decoded, h, hargs => by
    obtain ⟨a, ha, h⟩ := bind_eq_ok h
    obtain ⟨more, hmore, h⟩ := bind_eq_ok h
    cases h
    intro b hb
    rcases List.mem_cons.1 hb with rfl | hb
    · exact blockless_queryArgument ha (hargs v (by simp))
    · exact blockless_queryArguments hmore (fun v hv => hargs v (List.mem_cons_of_mem _ hv)) b hb

end

/-! ## Reading the query -/

namespace Run.Quiet

variable {α β : Type}

theorem map {x : Run α} (f : α → β) (h : Quiet x) : Quiet (f <$> x) := by
  rw [map_eq_pure_bind]
  exact h.bind fun _ => pure _

theorem sourceText {eval : Selector.Kind → Value → Run String} (kind : Selector.Kind)
    {source : Option (Query.Source Value)} (h : Query.Literal source) :
    Quiet (Query.sourceText eval kind source) := by
  match source with
  | none => exact pure _
  | some (.literal text) => exact pure _
  | some (.block b) => exact absurd rfl (h b)

variable [Library]

theorem addArgument {eval : Selector.Kind → Value → Run String} (parts : Query.Parts)
    {a : Query.Argument Value} (h : a.Blockless) :
    Quiet (Query.addArgument ⟨Run.refuse, eval⟩ parts a) := by
  cases a with
  | glob text =>
    simp only [Query.addArgument]
    repeat' split
    all_goals first | exact refuse _ | exact pure _
  | params labels fields =>
    simp only [Query.addArgument]
    split
    · exact refuse _
    · exact (sourceText _ h.1).bind fun _ => (sourceText _ h.2).bind fun _ => pure _
  | block b => exact False.elim h
  | sequence => exact refuse _
  | unsupported type => exact refuse _

theorem addArguments {eval : Selector.Kind → Value → Run String} :
    ∀ (args : List (Query.Argument Value)) (parts : Query.Parts), (∀ a ∈ args, a.Blockless) →
      Quiet (Query.addArguments ⟨Run.refuse, eval⟩ parts args)
  | [], _, _ => pure _
  | a :: rest, parts, h =>
    (addArgument parts (h a (by simp))).bind fun parts =>
      addArguments rest parts fun a ha => h a (List.mem_cons_of_mem _ ha)

theorem combine {eval : Selector.Kind → Value → Run String} {args : List (Query.Argument Value)}
    (h : ∀ a ∈ args, a.Blockless) : Quiet (Query.combine ⟨Run.refuse, eval⟩ args) := by
  unfold Query.combine
  split
  · exact map _ (refuse _)
  · exact map _ (addArguments args _ h)

end Run.Quiet

/-- Arguments without functions are read without any effect. -/
theorem queryOf_quiet [Library] {call : Caller} {args : List Value} {w₀ w : World}
    (hw : w₀.Untouched w) (hargs : ∀ v ∈ args, v.HoldsNoFunction w.tables) :
    (queryOf call args).Ends w (fun _ => w₀.Untouched) w₀.Untouched := by
  refine .bind_of_ok Run.run_get ?_
  refine .bind (Run.Ends.lift
    (P := fun decoded w' => w₀.Untouched w' ∧ ∀ a ∈ decoded, a.Blockless) ?_ hw) ?_
  · exact fun decoded h => ⟨hw, blockless_queryArguments h hargs⟩
  · exact fun decoded w' h => (Run.Quiet.combine h.2).ends h.1

end Script

end ClusterScript
