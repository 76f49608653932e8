import ClusterScript.Session.Basic
import ClusterScript.Text.Alphanumeric

/-!
# Completion

The word at the cursor is completed to a global or, behind a point or a
colon, to a member of a global. Places in a line are counted in bytes, and a
line can be cut only between two of its characters: the word is taken to
start one byte behind the character before it, which is inside of that
character where it has several bytes.

* `Completion.cut`: a text in two parts, at a byte.
* `Session.complete`: where the completed word starts, and the candidates.
-/
namespace ClusterScript

open Script

namespace Completion

/-- Characters of a word, separators of owners and members among them. -/
def isWordPart (c : Char) : Bool :=
  Text.isAlphanumeric c || c == '_' || c == '.' || c == ':'

def isSeparator (c : Char) : Bool := c == '.' || c == ':'

/-! ## Cutting texts -/

/-- A text that was to be cut inside of a character, or behind its end. -/
structure BadCut where
  text : List Char
  byte : Nat
deriving DecidableEq, Repr

/-- The parts of a text before and from a byte on. -/
def cut? : List Char → Nat → Option (List Char × List Char)
  | cs, 0 => some ([], cs)
  | [], _ + 1 => none
  | c :: rest, n + 1 =>
    if c.utf8Size ≤ n + 1 then
      (cut? rest (n + 1 - c.utf8Size)).map fun (before, behind) => (c :: before, behind)
    else none

def cut (cs : List Char) (byte : Nat) : Except BadCut (List Char × List Char) :=
  match cut? cs byte with
  | some parts => .ok parts
  | none => .error ⟨cs, byte⟩

/-! ## Words -/

/-- The byte at which the last of certain characters starts. -/
def lastAt? (p : Char → Bool) : List Char → Option Nat
  | [] => none
  | c :: rest =>
    match lastAt? p rest with
    | some byte => some (c.utf8Size + byte)
    | none => if p c then some 0 else none

/-- `word_start`: the byte behind the first one of the last character that is in no word. -/
def wordStart (cs : List Char) : Nat :=
  match lastAt? (fun c => !isWordPart c) cs with
  | some byte => byte + 1
  | none => 0

/-! ## Names -/

/-- Text keys among the entries of a table, ascending. -/
def textKeys (t : Table) : List String :=
  let names := t.entries.filterMap fun e => match e.1 with
    | .text s => some s
    | _ => none
  names.mergeSort fun a b => decide (a ≤ b)

end Completion

namespace Session

open Completion

def tableOf (s : Session) (id : Nat) : Table := s.world.tables[id]?.getD .empty

/-- `global_names`: the names of globals, ascending. -/
def globalNames (s : Session) : List String := textKeys (s.tableOf Run.globals)

/-- `member_names`: the members of a global, ascending: the methods of an instance or the keys of a
table. -/
def memberNames (s : Session) (name : String) : List String :=
  match (s.tableOf Run.globals).get (.text name) with
  | .instance i =>
    let names := ((s.world.registry.classes[i.cls]?).map fun c => c.methods.map (·.name)).getD []
    names.mergeSort fun a b => decide (a ≤ b)
  | .table id => textKeys (s.tableOf id)
  | _ => []

/-- `candidates`: candidates for a word, and how many of its bytes stay as they are. -/
def candidates (s : Session) (word : List Char) : Except BadCut (Nat × List String) :=
  match lastAt? isSeparator word with
  | some byte => do
    let owner := (← cut word byte).1
    let member := (← cut word (byte + 1)).2
    let names := if owner.any isSeparator then [] else s.memberNames (String.ofList owner)
    return (byte + 1, names.filter fun n => member.isPrefixOf n.toList)
  | none => return (0, s.globalNames.filter fun n => word.isPrefixOf n.toList)

/-- `complete`: completes a line at a cursor: the byte that the candidates start at, and the
candidates. After a bad cut the process ends. -/
def complete (s : Session) (line : String) (cursor : Nat) :
    Except BadCut (Nat × List String) := do
  let typed := (← cut line.toList cursor).1
  let start := wordStart typed
  let word := (← cut typed start).2
  if word.isEmpty then return (cursor, [])
  else
    let (kept, names) ← s.candidates word
    return (start + kept, names)

end Session

end ClusterScript
