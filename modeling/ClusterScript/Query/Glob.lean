import ClusterScript.Text.Split

/-!
# Name globs

`ns/` selects a namespace, `*/` all of them; `web-*`, `*-db` and `*-api-*`
filter names, alone or behind a namespace. Names are those of the cluster:
lower-case letters and digits, with hyphens in between.

* `Glob.parse?`: reads a glob.
* `NameFilter.accepts`: whether a filter lets a name pass. A hyphen between
  the fixed part and the rest of the name belongs to neither.
-/
namespace ClusterScript

/-- Where a query looks. -/
inductive Scope
  /-- In the namespace of the session. -/
  | current
  | everywhere
  | named (ns : String)
deriving DecidableEq, Repr, Inhabited

namespace Name

def isNameChar (c : Char) : Bool := c.isLower || c.isDigit || c == '-'

def isEdge (c : Char) : Bool := c.isLower || c.isDigit

/-- Lower-case letters, digits and hyphens, no hyphen at either end. -/
def valid (cs : List Char) : Bool :=
  cs.all isNameChar && cs.head?.any isEdge && cs.getLast?.any isEdge

/-- A name, with or without a hyphen before it. -/
def validAfterHyphen (cs : List Char) : Bool :=
  valid cs || (cs.head? == some '-' && valid cs.tail)

/-- A name, with or without a hyphen after it. -/
def validBeforeHyphen (cs : List Char) : Bool :=
  valid cs || (cs.getLast? == some '-' && valid cs.dropLast)

/-- A name with or without hyphens around it. -/
def validAmongHyphens (cs : List Char) : Bool :=
  validBeforeHyphen cs || (cs.head? == some '-' && validBeforeHyphen cs.tail)

end Name

/-- On which side of the fixed part a name may go on. -/
inductive FilterShape
  | startsWith
  | endsWith
  | contains
deriving DecidableEq, Repr, Inhabited

structure NameFilter where
  shape : FilterShape
  fixed : String
deriving DecidableEq, Repr, Inhabited

namespace NameFilter

/-- Nothing, or a name, and perhaps a hyphen. -/
def looseBefore (cs : List Char) : Bool :=
  cs.isEmpty || cs == ['-'] || Name.validBeforeHyphen cs

/-- Perhaps a hyphen, and a name or nothing. -/
def looseAfter (cs : List Char) : Bool :=
  cs.isEmpty || cs == ['-'] || Name.validAfterHyphen cs

/-- Whether the fixed part stands somewhere with fitting parts around it; `before` holds the
characters passed, reversed. -/
def occurs (fixed : List Char) (before : List Char) : List Char → Bool
  | [] => fixed.isEmpty && looseBefore before.reverse
  | c :: rest =>
    (fixed.isPrefixOf (c :: rest) && looseBefore before.reverse &&
      looseAfter ((c :: rest).drop fixed.length)) ||
    occurs fixed (c :: before) rest

def accepts (f : NameFilter) (name : String) : Bool :=
  let p := f.fixed.toList
  let cs := name.toList
  match f.shape with
  | .startsWith => p.isPrefixOf cs && Name.validAfterHyphen (cs.drop p.length)
  | .endsWith => p.isSuffixOf cs && Name.validBeforeHyphen (cs.take (cs.length - p.length))
  | .contains => occurs p [] cs

/-- `VALID_NAME`: the regular expression of a name. -/
def namePattern : String := "[a-z0-9]([-a-z0-9]*[a-z0-9])?"

/-- The fixed part inside a regular expression. -/
def escaped (s : String) : String :=
  String.ofList (s.toList.flatMap fun c => if c = '-' then ['\\', '-'] else [c])

/-- `parse_glob`: the regular expression that accepts the same names. -/
def pattern (f : NameFilter) : String :=
  let p := escaped f.fixed
  match f.shape with
  | .startsWith => s!"^({p})-?({namePattern})$"
  | .endsWith => s!"^({namePattern})-?({p})$"
  | .contains => s!"^({namePattern})?-?({p})-?({namePattern})?$"

end NameFilter

/-- What a glob asks for. -/
structure Glob where
  scope : Scope
  filter : Option NameFilter
deriving DecidableEq, Repr, Inhabited

namespace Glob

/-- The namespace before the slash. -/
def scope? (cs : List Char) : Option Scope :=
  if cs = ['*'] then some .everywhere
  else if Name.valid cs then some (.named (String.ofList cs))
  else none

/-- A fixed part with a star on one side or on both. -/
def filter? (cs : List Char) : Option NameFilter :=
  let filter (shape : FilterShape) (p : List Char) : NameFilter := ⟨shape, String.ofList p⟩
  match cs.head? == some '*', cs.getLast? == some '*' with
  | false, true =>
    if Name.validBeforeHyphen cs.dropLast then some (filter .startsWith cs.dropLast) else none
  | true, false =>
    if Name.validAfterHyphen cs.tail then some (filter .endsWith cs.tail) else none
  | true, true =>
    if Name.validAmongHyphens cs.tail.dropLast then some (filter .contains cs.tail.dropLast)
    else none
  | false, false => none

/-- The part behind the namespace: nothing or a star select all names. -/
def nameFilter? (cs : List Char) : Option (Option NameFilter) :=
  if cs = [] ∨ cs = ['*'] then some none else (filter? cs).map some

/-- `parse_glob`: reads a glob; a single star is the whole namespace of the session. -/
def parse? (s : String) : Option Glob :=
  match Text.splitOnceChars ['/'] s.toList with
  | some (ns, name) => do return ⟨← scope? ns, ← nameFilter? name⟩
  | none =>
    if s = "*" then some ⟨.current, none⟩
    else (filter? s.toList).map fun f => ⟨.current, some f⟩

end Glob

end ClusterScript
