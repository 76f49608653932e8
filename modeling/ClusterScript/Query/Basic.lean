import ClusterScript.Fault
import ClusterScript.Library
import ClusterScript.Query.Glob
import ClusterScript.Selector.Expression

/-!
# Queries

A query takes at most one glob and at most one selector argument, in either
order. Selectors are literal texts or blocks; `combine` evaluates blocks in
the order of the arguments, labels before fields, by a function that is
given.
-/
namespace ClusterScript

/-- `ListOptions`: the selectors that go along with a list request. -/
structure ListOptions where
  labels : String
  fields : String
deriving DecidableEq, Repr, Inhabited

namespace ListOptions

def none : ListOptions := ⟨"", ""⟩

def isEmpty (o : ListOptions) : Bool := o.labels = "" && o.fields = ""

/-- A selector that is sent along: an empty one is not. -/
def sent? (selector : String) : Option String := if selector = "" then .none else some selector

end ListOptions

/-- `parse_glob`: the glob that a text is; the expression of its filter has to compile. -/
def Glob.read [Library] (text : String) : Except Refusal Glob :=
  match Glob.parse? text with
  | none => .error .invalidGlob
  | some g =>
    match g.filter with
    | none => .ok g
    | some f => ((Library.compile f.pattern).mapError .badPattern).map fun _ => g

/-- `ResourceQuery`: what a query looks for. -/
structure Query where
  scope : Scope
  filter : Option NameFilter
  options : ListOptions
deriving DecidableEq, Repr, Inhabited

namespace Query

/-- Everything in the namespace of the session. -/
def all : Query := ⟨.current, none, ListOptions.none⟩

/-- `matches_name`: names are matched by the expression of the filter, which accepts these. -/
def matchesName (q : Query) (name : String) : Bool := q.filter.all fun f => f.accepts name

/-- `SelectorSource`: where a selector text comes from. -/
inductive Source (β : Type)
  | literal (text : String)
  | block (b : β)

/-- `QueryArg`: an argument of a query; `β` is the type of blocks. -/
inductive Argument (β : Type)
  | glob (text : String)
  | params (labels fields : Option (Source β))
  | block (b : β)
  /-- A table that is a list. -/
  | sequence
  | unsupported (type : String)

/-- What has been read of the arguments so far. -/
structure Parts where
  glob : Option Glob
  selectors : Option ListOptions
deriving DecidableEq, Repr

/-- The query of the parts; an absent part leaves its fields unset. -/
def ofParts (p : Parts) : Query :=
  let g := p.glob.getD ⟨.current, none⟩
  ⟨g.scope, g.filter, p.selectors.getD ListOptions.none⟩

section

variable {m : Type → Type} [Monad m] {β : Type}

/-- How arguments are refused and blocks evaluated. -/
structure Evaluation (m : Type → Type) (β : Type) where
  refuse : Refusal → m Parts
  eval : Selector.Kind → β → m String

/-- `resolve`: the text of an optional selector; empty if it is absent. -/
def sourceText (eval : Selector.Kind → β → m String) (kind : Selector.Kind) :
    Option (Source β) → m String
  | none => pure ""
  | some (.literal text) => pure text
  | some (.block b) => eval kind b

/-- Adds one argument to the parts. -/
def addArgument [Library] (e : Evaluation m β) (parts : Parts) : Argument β → m Parts
  | .glob text =>
    if parts.glob.isSome then e.refuse (.secondArgument "glob")
    else match Glob.read text with
      | .ok g => pure { parts with glob := some g }
      | .error r => e.refuse r
  | .params labels fields =>
    if parts.selectors.isSome then e.refuse (.secondArgument "selector")
    else do
      let l ← sourceText e.eval .label labels
      let f ← sourceText e.eval .field fields
      pure { parts with selectors := some ⟨l, f⟩ }
  | .block b =>
    if parts.selectors.isSome then e.refuse (.secondArgument "selector")
    else do
      let l ← e.eval .label b
      let f ← e.eval .field b
      pure { parts with selectors := some ⟨l, f⟩ }
  | .sequence => e.refuse .globSequence
  | .unsupported type => e.refuse (.queryArgumentType type)

def addArguments [Library] (e : Evaluation m β) (parts : Parts) : List (Argument β) → m Parts
  | [] => pure parts
  | a :: rest => do
    let parts ← addArgument e parts a
    addArguments e parts rest

/-- `parse`: the query that arguments ask for. -/
def combine [Library] (e : Evaluation m β) (args : List (Argument β)) : m Query := do
  if 2 < args.length then ofParts <$> e.refuse .tooManyQueryArguments
  else ofParts <$> addArguments e ⟨none, none⟩ args

end

end Query

end ClusterScript
