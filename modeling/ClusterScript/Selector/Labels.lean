import ClusterScript.Json.Basic
import ClusterScript.Text.Blank
import ClusterScript.Text.Split

/-!
# Matching labels

Reads a label selector as the cluster does: terms between commas outside of
parentheses, each of them a set test, a comparison or a presence test.

* `terms`: the terms of a selector.
* `termHolds`: whether labels satisfy one term.
* `holds`: whether they satisfy all of them.
-/
namespace ClusterScript.Selector

/-- Cuts at the commas outside of parentheses; `read` holds the current term, reversed. -/
def cutTerms (depth : Int) (read : List Char) : List Char → List (List Char)
  | [] => [read.reverse]
  | c :: rest =>
    if c = '(' then cutTerms (depth + 1) (c :: read) rest
    else if c = ')' then cutTerms (depth - 1) (c :: read) rest
    else if c = ',' ∧ depth = 0 then read.reverse :: cutTerms depth [] rest
    else cutTerms depth (c :: read) rest

/-- `label_terms`: the terms of a selector without the blanks around them; empty ones do not count.
-/
def terms (selector : String) : List String :=
  ((cutTerms 0 [] selector.toList).map fun t => String.ofList (Text.trimChars t)).filter
    (· ≠ "")

/-- The values of a set, with or without parentheses around it. -/
def setValues (list : String) : List String :=
  let inner := ((Text.trimChars list.toList).dropWhile (· == '(')).reverse.dropWhile (· == ')')
  (Text.splitOnChars ',' inner.reverse).map fun v => String.ofList (Text.trimChars v)

/-- The text of a label; a value that is no text counts as absent. -/
def labelValue? (labels : Json) (key : String) : Option String :=
  (labels.get (Text.trim key)).asString?

/-- A comparison with a sign, or a presence test. -/
def comparisonHolds (term : String) (labels : Json) : Bool :=
  match Text.splitOnce "!=" term with
  | some (key, value) => labelValue? labels key != some (Text.trim value)
  | none =>
    match (Text.splitOnce "==" term).or (Text.splitOnce "=" term) with
    | some (key, value) => labelValue? labels key == some (Text.trim value)
    | none =>
      match term.toList with
      | '!' :: key => (labelValue? labels (String.ofList key)).isNone
      | _ => (labelValue? labels term).isSome

/-- `label_term_matches`: whether labels satisfy a term. -/
def termHolds (term : String) (labels : Json) : Bool :=
  match Text.splitOnce " notin " term with
  | some (key, list) => (labelValue? labels key).all fun v => !(setValues list).contains v
  | none =>
    match Text.splitOnce " in " term with
    | some (key, list) => (labelValue? labels key).any fun v => (setValues list).contains v
    | none => comparisonHolds term labels

/-- `matches_labels`: whether labels satisfy every term of a selector. -/
def holds (selector : String) (labels : Json) : Bool :=
  (terms selector).all fun t => termHolds t labels

end ClusterScript.Selector
