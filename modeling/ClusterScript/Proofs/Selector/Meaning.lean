import ClusterScript.Selector.Expression

/-!
# What an expression says

An expression is about the text that stands under its key, if there is one.
`Expression.Holds` gives its meaning for any way of reading keys, so it serves
labels and fields alike, and it does not look at how an expression is written.

* `Expression.make?_eq_ok`: `make?` gives exactly the expressions of its
  arguments.
-/
namespace ClusterScript.Selector

/-- Whether an operator accepts the text that was found under a key. -/
def Operator.Accepts (o : Operator) (values : List String) (found : Option String) : Prop :=
  match o with
  | .equals | .isIn => ∃ v ∈ values, found = some v
  | .notEquals | .notIn => ∀ v ∈ values, found ≠ some v
  | .present => found.isSome = true

instance (o : Operator) (values : List String) (found : Option String) :
    Decidable (o.Accepts values found) :=
  match o with
  | .equals | .isIn => inferInstanceAs (Decidable (∃ v ∈ values, found = some v))
  | .notEquals | .notIn => inferInstanceAs (Decidable (∀ v ∈ values, found ≠ some v))
  | .present => inferInstanceAs (Decidable (found.isSome = true))

namespace Expression

/-- Whether an expression holds where `read` gives the text under a key. -/
def Holds (e : Expression) (read : String → Option String) : Prop :=
  e.operator.Accepts e.values (read e.key)

instance (e : Expression) (read : String → Option String) : Decidable (e.Holds read) :=
  inferInstanceAs (Decidable (e.operator.Accepts e.values (read e.key)))

theorem make?_eq_ok {key : String} {operator : Operator} {values : List String}
    {e : Expression} : make? key operator values = .ok e ↔
      e.key = key ∧ e.operator = operator ∧ e.values = values := by
  obtain ⟨k, o, vs, hk, hv⟩ := e
  constructor
  · intro h
    unfold make? at h
    split at h
    · cases h
    · split at h <;> split at h <;> cases h <;> exact ⟨rfl, rfl, rfl⟩
  · rintro ⟨rfl, rfl, rfl⟩
    by_cases ho : o = .present
    · simp [make?, hk, ho, hv.1 ho]
    · have hne : vs ≠ [] := fun h => ho (hv.2 h)
      simp [make?, hk, ho, hne]

/-- A comparison has a first value. -/
theorem values_cons (e : Expression) (h : e.operator ≠ .present) :
    ∃ v rest, e.values = v :: rest :=
  List.exists_cons_of_ne_nil fun hv => h (e.values_fit.2 hv)

end Expression

end ClusterScript.Selector
