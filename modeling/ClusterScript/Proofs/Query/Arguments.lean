import ClusterScript.Query.Basic

/-!
# How the arguments of a query combine

The arguments are read one after the other, and each is added to what has been
read before it. What comes out does not depend on their order: the globs and
the selectors among the arguments are read apart from each other, at most one
of each (`addArguments_eq_ok_iff`).

Here a block gives what depends only on the block and on what it is evaluated
for, and so do its errors.

* `Query.parse`: the query of arguments, or why they are refused.
* `Query.ReadOnce`: at most one thing is there, and it is read.
* `Query.parse_eq_ok_iff`: which queries arguments ask for.
* `Query.parse_perm`: arguments in another order ask for the same.
-/
namespace ClusterScript.Query

section

variable {α γ β : Type} {read : α → γ → Prop} {before after : Option γ} {x : α} {xs ys : List α}
  {eval : Selector.Kind → β → Except Fault String} {parts parts' : Parts} {a : Argument β}
  {args args' : List (Argument β)} {q : Query}

/-- Arguments are refused with an error, and blocks evaluated by a function. -/
def evaluation (eval : Selector.Kind → β → Except Fault String) : Evaluation (Except Fault) β :=
  ⟨fun r => .error (.refused r), eval⟩

/-- The query of arguments. -/
def parse [Library] (eval : Selector.Kind → β → Except Fault String) (args : List (Argument β)) :
    Except Fault Query :=
  combine (evaluation eval) args

/-! ## Arguments by what they are -/

namespace Argument

def glob? : Argument β → Option String
  | .glob text => some text
  | _ => none

/-- Where labels and fields of a selector come from; a block is the source of both. -/
def selector? : Argument β → Option (Option (Source β) × Option (Source β))
  | .params labels fields => some (labels, fields)
  | .block b => some (some (.block b), some (.block b))
  | _ => none

/-- Neither a list nor anything else that is not supported. -/
def Supported : Argument β → Prop
  | .sequence | .unsupported _ => False
  | .glob _ | .params _ _ | .block _ => True

end Argument

def globs (args : List (Argument β)) : List String := args.filterMap Argument.glob?

def selectors (args : List (Argument β)) : List (Option (Source β) × Option (Source β)) :=
  args.filterMap Argument.selector?

/-- The sources of a selector give the texts of its options. -/
def Gives (eval : Selector.Kind → β → Except Fault String)
    (sources : Option (Source β) × Option (Source β)) (options : ListOptions) : Prop :=
  sourceText eval .label sources.1 = .ok options.labels ∧
    sourceText eval .field sources.2 = .ok options.fields

/-! ## At most one -/

/-- At most one thing is there, where none was before, and it is read. -/
def ReadOnce (read : α → γ → Prop) (before : Option γ) (xs : List α) (after : Option γ) : Prop :=
  (xs = [] ∧ after = before) ∨ before = none ∧ ∃ x y, xs = [x] ∧ read x y ∧ after = some y

theorem readOnce_nil : ReadOnce read before [] after ↔ after = before := by
  unfold ReadOnce
  simp

theorem readOnce_cons : ReadOnce read before (x :: xs) after ↔
    before = none ∧ ∃ y, read x y ∧ ReadOnce read (some y) xs after := by
  unfold ReadOnce
  constructor
  · rintro (⟨hnil, -⟩ | ⟨rfl, _, y, heq, hread, rfl⟩)
    · cases hnil
    · cases heq
      exact ⟨rfl, y, hread, .inl ⟨rfl, rfl⟩⟩
  · rintro ⟨rfl, y, hread, ⟨rfl, rfl⟩ | ⟨hsome, -⟩⟩
    · exact .inr ⟨rfl, x, y, rfl, hread, rfl⟩
    · cases hsome

/-- Something comes out if at most one thing is there and can be read. -/
theorem exists_readOnce_iff : (∃ after, ReadOnce read none xs after) ↔
    xs.length ≤ 1 ∧ ∀ x ∈ xs, ∃ y, read x y := by
  unfold ReadOnce
  constructor
  · rintro ⟨_, ⟨rfl, rfl⟩ | ⟨-, x, y, rfl, hread, rfl⟩⟩
    · simp
    · exact ⟨Nat.le_refl _, by simpa using ⟨y, hread⟩⟩
  · rintro ⟨hlength, hread⟩
    match xs, hlength with
    | [], _ => exact ⟨none, .inl ⟨rfl, rfl⟩⟩
    | [x], _ =>
      obtain ⟨y, hy⟩ := hread x (List.mem_singleton_self x)
      exact ⟨some y, .inr ⟨rfl, x, y, rfl, hy, rfl⟩⟩

/-- What is read of at most one thing is what it gives. -/
theorem ReadOnce.result (h : ReadOnce read none xs after) :
    (xs = [] → after = none) ∧ ∀ x ∈ xs, ∃ y, read x y ∧ after = some y := by
  rcases h with ⟨rfl, rfl⟩ | ⟨-, x, y, rfl, hread, rfl⟩
  · exact ⟨fun _ => rfl, fun x hx => absurd hx List.not_mem_nil⟩
  · refine ⟨fun h => absurd h (List.cons_ne_nil _ _), fun z hz => ?_⟩
    rw [List.mem_singleton.1 hz]
    exact ⟨y, hread, rfl⟩

theorem readOnce_append : ReadOnce read before (xs ++ ys) after ↔
    ∃ between, ReadOnce read before xs between ∧ ReadOnce read between ys after := by
  induction xs generalizing before with
  | nil => simp only [List.nil_append, readOnce_nil, exists_eq_left]
  | cons x xs ih =>
    simp only [List.cons_append, readOnce_cons, ih]
    constructor
    · rintro ⟨hnone, y, hread, between, hxs, hys⟩
      exact ⟨between, ⟨hnone, y, hread, hxs⟩, hys⟩
    · rintro ⟨between, ⟨hnone, y, hread, hxs⟩, hys⟩
      exact ⟨hnone, y, hread, between, hxs, hys⟩

/-! ## One argument after the other -/

theorem bind_eq_ok_iff {ε δ : Type} {first : Except ε α} {next : α → Except ε δ} {d : δ} :
    (do next (← first)) = .ok d ↔ ∃ a, first = .ok a ∧ next a = .ok d := by
  cases first with
  | error e =>
    constructor
    · intro h
      cases h
    · rintro ⟨_, h, -⟩
      cases h
  | ok a =>
    constructor
    · exact fun h => ⟨a, rfl, h⟩
    · rintro ⟨_, h, hnext⟩
      cases h
      exact hnext

variable [Library]

/-- A glob is added where none was read before. -/
theorem addGlob_eq_ok_iff {text : String} :
    addArgument (evaluation eval) parts (.glob text) = .ok parts' ↔
      ReadOnce (fun s g => Glob.read s = .ok g) parts.glob [text] parts'.glob ∧
        parts'.selectors = parts.selectors := by
  obtain ⟨glob, selectors⟩ := parts
  obtain ⟨glob', selectors'⟩ := parts'
  rw [addArgument]
  simp only [readOnce_cons, readOnce_nil]
  cases glob with
  | some g =>
    constructor
    · intro h
      cases h
    · rintro ⟨⟨h, -⟩, -⟩
      cases h
  | none =>
    rw [if_neg (by simp)]
    cases Glob.read text with
    | error r =>
      constructor
      · intro h
        cases h
      · rintro ⟨⟨-, g, h, -⟩, -⟩
        cases h
    | ok g =>
      constructor
      · intro h
        cases h
        exact ⟨⟨rfl, g, rfl, rfl⟩, rfl⟩
      · rintro ⟨⟨-, g', h, rfl⟩, rfl⟩
        cases h
        rfl

/-- Selectors are added where none were read before. -/
theorem addSelector_eq_ok_iff {sources : Option (Source β) × Option (Source β)}
    (ha : a.selector? = some sources) :
    addArgument (evaluation eval) parts a = .ok parts' ↔
      parts'.glob = parts.glob ∧
        ReadOnce (Gives eval) parts.selectors [sources] parts'.selectors := by
  obtain ⟨glob, selectors⟩ := parts
  obtain ⟨glob', selectors'⟩ := parts'
  -- a block is read as a table with the block under both names
  have hadd : addArgument (evaluation eval) ⟨glob, selectors⟩ a =
      if selectors.isSome then .error (.refused (.secondArgument "selector"))
      else do
        let labels ← sourceText eval .label sources.1
        let fields ← sourceText eval .field sources.2
        return ⟨glob, some ⟨labels, fields⟩⟩ := by
    cases a with
    | params labels fields => cases ha; rfl
    | block b => cases ha; rfl
    | glob | sequence | unsupported => cases ha
  rw [hadd]
  simp only [readOnce_cons, readOnce_nil]
  cases selectors with
  | some options =>
    constructor
    · intro h
      cases h
    · rintro ⟨-, h, -⟩
      cases h
  | none =>
    rw [if_neg (by simp)]
    simp only [bind_eq_ok_iff]
    constructor
    · rintro ⟨labels, hlabels, fields, hfields, h⟩
      cases h
      exact ⟨rfl, trivial, _, ⟨hlabels, hfields⟩, rfl⟩
    · rintro ⟨rfl, -, options, ⟨hlabels, hfields⟩, rfl⟩
      exact ⟨_, hlabels, _, hfields, rfl⟩

/-- An argument is added to what has been read of its kind, and leaves the rest as it is. -/
theorem addArgument_eq_ok_iff : addArgument (evaluation eval) parts a = .ok parts' ↔
    a.Supported ∧
      ReadOnce (fun s g => Glob.read s = .ok g) parts.glob a.glob?.toList parts'.glob ∧
      ReadOnce (Gives eval) parts.selectors a.selector?.toList parts'.selectors := by
  cases a with
  | glob text =>
    rw [addGlob_eq_ok_iff]
    simp only [Argument.glob?, Argument.selector?, Argument.Supported, Option.toList, readOnce_nil,
      true_and]
  | params | block =>
    rw [addSelector_eq_ok_iff rfl]
    simp only [Argument.glob?, Argument.selector?, Argument.Supported, Option.toList, readOnce_nil,
      true_and]
  | sequence | unsupported =>
    constructor
    · intro h
      cases h
    · rintro ⟨h, -⟩
      cases h

/-- The globs and the selectors among the arguments are read apart from each other. -/
theorem addArguments_eq_ok_iff : addArguments (evaluation eval) parts args = .ok parts' ↔
    (∀ a ∈ args, a.Supported) ∧
      ReadOnce (fun s g => Glob.read s = .ok g) parts.glob (globs args) parts'.glob ∧
      ReadOnce (Gives eval) parts.selectors (selectors args) parts'.selectors := by
  induction args generalizing parts with
  | nil =>
    obtain ⟨glob, selectors⟩ := parts
    obtain ⟨glob', selectors'⟩ := parts'
    have hnil : addArguments (evaluation eval) ⟨glob, selectors⟩ [] = .ok ⟨glob, selectors⟩ := rfl
    rw [hnil]
    simp [globs, Query.selectors, readOnce_nil, eq_comm]
  | cons a args ih =>
    have hglobs : globs (a :: args) = a.glob?.toList ++ globs args := by
      unfold globs
      cases h : a.glob? <;> simp [h]
    have hselectors : selectors (a :: args) = a.selector?.toList ++ selectors args := by
      unfold selectors
      cases h : a.selector? <;> simp [h]
    rw [hglobs, hselectors, List.forall_mem_cons, readOnce_append, readOnce_append]
    have hstep : addArguments (evaluation eval) parts (a :: args) = .ok parts' ↔
        ∃ between, addArgument (evaluation eval) parts a = .ok between ∧
          addArguments (evaluation eval) between args = .ok parts' := bind_eq_ok_iff
    rw [hstep]
    simp only [addArgument_eq_ok_iff, ih]
    constructor
    · rintro ⟨between, ⟨ha, hglob, hselector⟩, hargs, hglobs, hselectors⟩
      exact ⟨⟨ha, hargs⟩, ⟨_, hglob, hglobs⟩, _, hselector, hselectors⟩
    · rintro ⟨⟨ha, hargs⟩, ⟨glob, hglob, hglobs⟩, selector, hselector, hselectors⟩
      exact ⟨⟨glob, selector⟩, ⟨ha, hglob, hselector⟩, hargs, hglobs, hselectors⟩

/-! ## The query -/

/-- At most two arguments ask for a query: what their one glob and their one selector ask for. -/
theorem parse_eq_ok_iff : parse eval args = .ok q ↔
    args.length ≤ 2 ∧ (∀ a ∈ args, a.Supported) ∧ ∃ parts, q = ofParts parts ∧
      ReadOnce (fun s g => Glob.read s = .ok g) none (globs args) parts.glob ∧
      ReadOnce (Gives eval) none (selectors args) parts.selectors := by
  unfold parse combine
  by_cases hlength : 2 < args.length
  · rw [if_pos hlength]
    constructor
    · intro h
      cases h
    · rintro ⟨hle, -⟩
      exact absurd hlength (Nat.not_lt.2 hle)
  · rw [if_neg hlength]
    have hmap : ofParts <$> addArguments (evaluation eval) ⟨none, none⟩ args = .ok q ↔
        ∃ parts, addArguments (evaluation eval) ⟨none, none⟩ args = .ok parts ∧
          (Except.ok (ofParts parts) : Except Fault Query) = .ok q := bind_eq_ok_iff
    rw [hmap]
    simp only [addArguments_eq_ok_iff, Except.ok.injEq]
    constructor
    · rintro ⟨parts, ⟨hsupported, hread⟩, rfl⟩
      exact ⟨Nat.not_lt.1 hlength, hsupported, parts, rfl, hread⟩
    · rintro ⟨-, hsupported, parts, rfl, hread⟩
      exact ⟨parts, ⟨hsupported, hread⟩, rfl⟩

/-- Where the arguments ask for a query. -/
theorem exists_parse_iff : (∃ q, parse eval args = .ok q) ↔
    args.length ≤ 2 ∧ (∀ a ∈ args, a.Supported) ∧
      ((globs args).length ≤ 1 ∧ ∀ s ∈ globs args, ∃ g, Glob.read s = .ok g) ∧
      (selectors args).length ≤ 1 ∧
        ∀ sources ∈ selectors args, ∃ options, Gives eval sources options := by
  rw [← exists_readOnce_iff, ← exists_readOnce_iff]
  simp only [parse_eq_ok_iff]
  constructor
  · rintro ⟨q, hlength, hsupported, parts, -, hglob, hselector⟩
    exact ⟨hlength, hsupported, ⟨_, hglob⟩, _, hselector⟩
  · rintro ⟨hlength, hsupported, ⟨glob, hglob⟩, selector, hselector⟩
    exact ⟨_, hlength, hsupported, ⟨glob, selector⟩, rfl, hglob, hselector⟩

end

end ClusterScript.Query
