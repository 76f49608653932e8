import ClusterScript.Text.Alphanumeric
import ClusterScript.Text.Blank
import ClusterScript.Text.LetterCase

/-!
# Patterns

Regular expressions over a text. A pattern takes a set of positions to the
positions that it may end at when it starts at one of them; a text has a
match if some position is reached from all of them.

* `Pattern.image`: where a pattern may end.
* `Pattern.occursIn`: whether a pattern matches somewhere in a text.
-/
namespace ClusterScript

/-- A part of a character class. -/
inductive ClassItem
  | range (lo hi : Char)
  | digit (negated : Bool)
  | word (negated : Bool)
  | blank (negated : Bool)
deriving DecidableEq, Repr, Inhabited

def ClassItem.has (c : Char) : ClassItem → Bool
  | .range lo hi => lo ≤ c && c ≤ hi
  | .digit negated => Text.isDecimalDigit c != negated
  | .word negated => Text.isWordChar c != negated
  | .blank negated => Text.isBlank c != negated

structure CharClass where
  negated : Bool
  /-- Letters stand for both of their cases. -/
  caseless : Bool
  items : List ClassItem
deriving DecidableEq, Repr, Inhabited

def CharClass.has (k : CharClass) (c : Char) : Bool :=
  let candidates := if k.caseless then Text.caseVariants c else [c]
  (candidates.any fun c => k.items.any (·.has c)) != k.negated

inductive Pattern
  | empty
  | char (k : CharClass)
  /-- The start of the text. -/
  | start
  /-- The end of the text. -/
  | stop
  /-- A word begins or ends here, or the contrary. -/
  | boundary (negated : Bool)
  | seq (a b : Pattern)
  | alt (a b : Pattern)
  | star (a : Pattern)
deriving DecidableEq, Repr, Inhabited

namespace Pattern

/-- A set of the positions of a text, one more than it has characters. -/
abbrev Positions := List Bool

def union (s t : Positions) : Positions := List.zipWith (· || ·) s t

def meet (s t : Positions) : Positions := List.zipWith (· && ·) s t

/-- The positions behind a character of a class. -/
def step (k : CharClass) (text : List Char) (s : Positions) : Positions :=
  false :: List.zipWith (fun here c => here && k.has c) s text

/-- The first position of a text. -/
def firstOnly (text : List Char) : Positions := true :: text.map fun _ => false

/-- The last position of a text. -/
def lastOnly (text : List Char) : Positions := (text.map fun _ => false) ++ [true]

/-- The positions with a word character on exactly one side; `before` is on the left. -/
def boundaries (before : Bool) : List Char → Positions
  | [] => [before]
  | c :: rest => (before != Text.isWordChar c) :: boundaries (Text.isWordChar c) rest

/-- Adds the positions that `f` reaches until there are no more, at most `fuel` times. -/
def closure (f : Positions → Positions) : Nat → Positions → Positions
  | 0, s => s
  | fuel + 1, s =>
    let t := union s (f s)
    if t = s then s else closure f fuel t

/-- Where a pattern may end if it starts at one of the positions. -/
def image (text : List Char) : Pattern → Positions → Positions
  | .empty, s => s
  | .char k, s => step k text s
  | .start, s => meet s (firstOnly text)
  | .stop, s => meet s (lastOnly text)
  | .boundary negated, s => meet s ((boundaries false text).map (· != negated))
  | .seq a b, s => image text b (image text a s)
  | .alt a b, s => union (image text a s) (image text b s)
  | .star a, s => closure (image text a) (text.length + 1) s

/-- Whether a pattern matches somewhere in a text. -/
def occursIn (p : Pattern) (text : String) : Bool :=
  let cs := text.toList
  (image cs p (List.replicate (cs.length + 1) true)).any id

/-- The same pattern so many times. -/
def times (p : Pattern) : Nat → Pattern
  | 0 => .empty
  | n + 1 => .seq p (times p n)

/-- Up to so many times. -/
def upTo (p : Pattern) : Nat → Pattern
  | 0 => .empty
  | n + 1 => .alt .empty (.seq p (upTo p n))

end Pattern

end ClusterScript
