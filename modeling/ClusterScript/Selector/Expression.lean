import ClusterScript.Fault
import ClusterScript.Selector.Term
import ClusterScript.Text.Blank
import ClusterScript.Text.Split

/-!
# Selector expressions

An expression constrains one key: a comparison with at least one value, or a
presence check without values. `Expression.make?` is the only way to one, so
a blank key or a wrong number of values never gets into a selector.

* `render`: the text of a list of expressions, as the cluster reads it:
  `app in (a, b),tier!=x,owner` for labels and `status.phase==Running` for
  fields.
-/
namespace ClusterScript.Selector

/-- `Operator`: how a key is compared with values. -/
inductive Operator
  | equals
  | notEquals
  | isIn
  | notIn
  /-- Whether the key is there at all. -/
  | present
deriving DecidableEq, Repr, Inhabited

/-- `SelectorKind`: labels are free names, fields are paths into an object. -/
inductive Kind
  | label
  | field
deriving DecidableEq, Repr, Inhabited

def Kind.describe : Kind → String
  | .label => "label"
  | .field => "field"

/-- `Expression`: a key with what its values are compared by. -/
structure Expression where
  key : String
  operator : Operator
  values : List String
  key_not_blank : Text.blank key = false
  values_fit : operator = .present ↔ values = []
deriving DecidableEq, Repr

namespace Expression

/-- `new`: a blank key is refused first, then a wrong number of values. -/
def make? (key : String) (operator : Operator) (values : List String) :
    Except Refusal Expression :=
  if hk : Text.blank key = true then .error .blankKey
  else if hp : operator = .present then
    if hv : values = [] then
      .ok ⟨key, operator, values, by simpa using hk, ⟨fun _ => hv, fun _ => hp⟩⟩
    else .error (.presenceWithValues key)
  else if hv : values = [] then .error (.noValues key)
  else .ok ⟨key, operator, values, by simpa using hk,
    ⟨fun h => absurd h hp, fun h => absurd h hv⟩⟩

/-- A key with a set of values. -/
def setText (key word : String) (values : List String) : String :=
  s!"{key} {word} (" ++ Text.join ", " values ++ ")"

/-- `render_label`: a single value is compared with a sign, several with a set. -/
def label (e : Expression) : String :=
  match e.operator, e.values with
  | .isIn, values => setText e.key "in" values
  | .notIn, values => setText e.key "notin" values
  | .equals, [v] => s!"{e.key}={v}"
  | .equals, values => setText e.key "in" values
  | .notEquals, [v] => s!"{e.key}!={v}"
  | .notEquals, values => setText e.key "notin" values
  | .present, _ => e.key

/-- The comparison that fields know in the stead of an operator. -/
def comparison? : Operator → Option Comparison
  | .equals | .isIn => some .equal
  | .notEquals | .notIn => some .unequal
  | .present => none

/-- `field_terms`: one term for each value. -/
def fieldTerms (e : Expression) : Except Refusal (List FieldTerm) :=
  match comparison? e.operator with
  | some c => .ok (e.values.map fun v => ⟨e.key, c, v⟩)
  | none => .error (.fieldPresence e.key)

end Expression

/-- The field terms of a list of expressions, in order. -/
def allFieldTerms : List Expression → Except Refusal (List FieldTerm)
  | [] => .ok []
  | e :: rest => do
    let terms ← e.fieldTerms
    let more ← allFieldTerms rest
    return terms ++ more

/-- `render`: the selector text of a list of expressions. -/
def render (kind : Kind) (expressions : List Expression) : Except Refusal String :=
  match kind with
  | .label => .ok (Text.join "," (expressions.map Expression.label))
  | .field => do
    let terms ← allFieldTerms expressions
    return Text.join "," (terms.map FieldTerm.text)

end ClusterScript.Selector
