import ClusterScript.Pattern.Basic

/-!
# Reading patterns

The usual notation for regular expressions: literals, `.`, `^`, `$`, `*`, `+`,
`?`, counted repetition, groups, alternatives, character classes, escapes and
the flag for letter case, which holds up to the end of its group.

* `Pattern.parse?`: the pattern of a text; `none` if it is malformed.
* `Pattern.compile`: the test that the pattern of a text is.
-/
namespace ClusterScript.Pattern

def literal (caseless : Bool) (c : Char) : Pattern := .char ⟨false, caseless, [.range c c]⟩

/-- All characters but a line feed. -/
def anyChar : Pattern := .char ⟨true, false, [.range '\n' '\n']⟩

/-! ## Escapes -/

def hexValue? (c : Char) : Option Nat :=
  if c.isDigit then some (c.toNat - 48)
  else if 'a' ≤ c ∧ c ≤ 'f' then some (c.toNat - 87)
  else if 'A' ≤ c ∧ c ≤ 'F' then some (c.toNat - 55)
  else none

/-- The character of hexadecimal digits. -/
def charOfHex? (ds : List Char) : Option Char := do
  if ds.isEmpty then none
  let n ← ds.foldlM (fun n c => (hexValue? c).map (n * 16 + ·)) 0
  if n < 0xD800 ∨ (0xDFFF < n ∧ n ≤ 0x10FFFF) then some (Char.ofNat n) else none

/-- A character by its code point, after the letter that says how many digits there are. -/
def hexEscape? (width : Nat) (cs : List Char) : Option (Char × List Char) :=
  match cs with
  | '\x7b' :: rest =>
    match rest.dropWhile (· != '\x7d') with
    | _ :: after => (charOfHex? (rest.takeWhile (· != '\x7d'))).map fun c => (c, after)
    | [] => none
  | _ =>
    if cs.length < width then none
    else (charOfHex? (cs.take width)).map fun c => (c, cs.drop width)

/-- What an escape stands for. -/
inductive Escape
  | char (c : Char)
  | item (i : ClassItem)
  | assertion (p : Pattern)

/-- The escape behind a backslash. -/
def escape? (cs : List Char) : Option (Escape × List Char) :=
  match cs with
  | [] => none
  | c :: rest =>
    let char (x : Char) : Option (Escape × List Char) := some (.char x, rest)
    let item (i : ClassItem) : Option (Escape × List Char) := some (.item i, rest)
    match c with
    | 'd' => item (.digit false)
    | 'D' => item (.digit true)
    | 'w' => item (.word false)
    | 'W' => item (.word true)
    | 's' => item (.blank false)
    | 'S' => item (.blank true)
    | 'A' => some (.assertion .start, rest)
    | 'z' => some (.assertion .stop, rest)
    | 'b' => some (.assertion (.boundary false), rest)
    | 'B' => some (.assertion (.boundary true), rest)
    | 'a' => char '\x07'
    | 'f' => char '\x0c'
    | 't' => char '\t'
    | 'n' => char '\n'
    | 'r' => char '\r'
    | 'v' => char '\x0b'
    | 'x' => (hexEscape? 2 rest).map fun (x, after) => (.char x, after)
    | 'u' => (hexEscape? 4 rest).map fun (x, after) => (.char x, after)
    | 'U' => (hexEscape? 8 rest).map fun (x, after) => (.char x, after)
    | c =>
      if c.toNat < 128 && !c.isAlphanum && c != '<' && c != '>' then char c else none

/-! ## Classes -/

/-- One character or item of a class. -/
def classAtom? (cs : List Char) : Option (Escape × List Char) :=
  match cs with
  | [] | '[' :: _ => none
  | '\\' :: rest =>
    match escape? rest with
    | some (.assertion _, _) => none
    | e => e
  | c :: rest => some (.char c, rest)

/-- The items of a class up to its closing bracket, of at most `fuel` of them. -/
def classItems? : Nat → Bool → List Char → Option (List ClassItem × List Char)
  | 0, _, _ => none
  | fuel + 1, first, cs =>
    match cs with
    | ']' :: rest =>
      if first then classFrom? fuel (some (.char ']', rest)) else some ([], rest)
    | _ => classFrom? fuel (classAtom? cs)
where
  /-- A single item, or a range that starts with it. -/
  classFrom? (fuel : Nat) : Option (Escape × List Char) → Option (List ClassItem × List Char)
    | some (.char lo, '-' :: rest) =>
      match rest with
      | ']' :: _ => (classItems? fuel false ('-' :: rest)).map fun (is, r) =>
          (.range lo lo :: is, r)
      | _ =>
        match classAtom? rest with
        | some (.char hi, rest) =>
          if hi < lo then none
          else (classItems? fuel false rest).map fun (is, r) => (.range lo hi :: is, r)
        | _ => none
    | some (.char c, rest) => (classItems? fuel false rest).map fun (is, r) =>
        (.range c c :: is, r)
    | some (.item i, rest) => (classItems? fuel false rest).map fun (is, r) => (i :: is, r)
    | _ => none

/-- A class behind its opening bracket. -/
def class? (caseless : Bool) (cs : List Char) : Option (Pattern × List Char) :=
  let (negated, cs) := match cs with
    | '^' :: rest => (true, rest)
    | _ => (false, cs)
  (classItems? (cs.length + 1) true cs).map fun (items, rest) =>
    (.char ⟨negated, caseless, items⟩, rest)

/-! ## Repetition -/

/-- A decimal number with blanks around it. -/
def decimal? (cs : List Char) : Option (Nat × List Char) :=
  let cs := cs.dropWhile Text.isBlank
  let ds := cs.takeWhile Char.isDigit
  if ds.isEmpty then none
  else some (ds.foldl (fun n c => n * 10 + (c.toNat - 48)) 0,
    (cs.dropWhile Char.isDigit).dropWhile Text.isBlank)

/-- A count in braces: the least and the greatest number of times. -/
def count? (cs : List Char) : Option ((Nat × Option Nat) × List Char) := do
  let (lo, rest) ← decimal? cs
  match rest with
  | '\x7d' :: rest => return ((lo, some lo), rest)
  | ',' :: '\x7d' :: rest => return ((lo, none), rest)
  | ',' :: rest =>
    match ← decimal? rest with
    | (hi, '\x7d' :: rest) => if hi < lo then none else return ((lo, some hi), rest)
    | _ => none
  | _ => none

def repeated (p : Pattern) : Nat × Option Nat → Pattern
  | (lo, none) => .seq (times p lo) (.star p)
  | (lo, some hi) => .seq (times p lo) (upTo p (hi - lo))

/-- The repetition that follows an item, and whether there is one. -/
def repetition? (cs : List Char) : Option (Option (Nat × Option Nat) × List Char) :=
  let lazily (rest : List Char) := match rest with
    | '?' :: rest => rest
    | _ => rest
  match cs with
  | '*' :: rest => some (some (0, none), lazily rest)
  | '+' :: rest => some (some (1, none), lazily rest)
  | '?' :: rest => some (some (0, some 1), lazily rest)
  | '\x7b' :: rest => (count? rest).map fun (n, rest) => (some n, lazily rest)
  | _ => some (none, cs)

/-- An item with all repetitions that follow it, of at most `fuel`. -/
def repeatAll : Nat → Pattern → List Char → Option (Pattern × List Char)
  | 0, p, cs => some (p, cs)
  | fuel + 1, p, cs =>
    match repetition? cs with
    | none => none
    | some (none, rest) => some (p, rest)
    | some (some n, rest) => repeatAll fuel (repeated p n) rest

/-! ## Groups and alternatives -/

/-- Flags up to the character that ends them: whether letter case counts, and what follows. -/
def flags? (caseless on : Bool) : List Char → Option (Bool × List Char)
  | 'i' :: rest => flags? on on rest
  | 'm' :: rest | 's' :: rest | 'u' :: rest | 'U' :: rest => flags? caseless on rest
  | '-' :: rest => if on then flags? caseless false rest else none
  | ')' :: rest => some (caseless, ')' :: rest)
  | ':' :: rest => some (caseless, ':' :: rest)
  | _ => none

/-- What a group begins with. -/
inductive Opening
  /-- Flags for what follows in the enclosing group. -/
  | flags (caseless : Bool)
  | group (caseless : Bool)

/-- The name of a group up to its closing angle bracket. -/
def groupName? (cs : List Char) : Option (List Char) :=
  let name := cs.takeWhile (· != '>')
  let valid := !name.isEmpty && name.all fun c =>
    Text.isWordChar c || c == '.' || c == '[' || c == ']'
  if valid && !name.head?.any Char.isDigit then
    match cs.dropWhile (· != '>') with
    | _ :: rest => some rest
    | [] => none
  else none

/-- The opening behind a parenthesis. -/
def opening? (caseless : Bool) (cs : List Char) : Option (Opening × List Char) :=
  match cs with
  | '?' :: 'P' :: '<' :: rest => (groupName? rest).map fun rest => (.group caseless, rest)
  | '?' :: '<' :: rest => (groupName? rest).map fun rest => (.group caseless, rest)
  | '?' :: rest =>
    match flags? caseless true rest with
    | some (ci, ')' :: after) => if rest = ')' :: after then none else some (.flags ci, after)
    | some (ci, ':' :: after) => some (.group ci, after)
    | _ => none
  | _ => some (.group caseless, cs)

/-- A single item that is no group. -/
def atom? (caseless : Bool) (cs : List Char) : Option (Pattern × List Char) :=
  match cs with
  | [] | '*' :: _ | '+' :: _ | '?' :: _ | '\x7b' :: _ => none
  | '.' :: rest => some (anyChar, rest)
  | '^' :: rest => some (.start, rest)
  | '$' :: rest => some (.stop, rest)
  | '[' :: rest => class? caseless rest
  | '\\' :: rest =>
    match escape? rest with
    | some (.char c, rest) => some (literal caseless c, rest)
    | some (.item i, rest) => some (.char ⟨false, caseless, [i]⟩, rest)
    | some (.assertion p, rest) => some (p, rest)
    | none => none
  | c :: rest => some (literal caseless c, rest)

mutual

/-- Items up to the end of the alternative: their pattern, and the flag for letter case. -/
def sequence? : Nat → Bool → List Char → Option (Pattern × Bool × List Char)
  | 0, _, _ => none
  | fuel + 1, caseless, cs =>
    match cs with
    | [] | '|' :: _ | ')' :: _ => some (.empty, caseless, cs)
    | '(' :: rest =>
      match opening? caseless rest with
      | none => none
      | some (.flags ci, rest) =>
        match repetition? rest with
        | some (none, _) => sequence? fuel ci rest
        | _ => none
      | some (.group ci, rest) =>
        match alternatives? fuel ci rest with
        | some (p, ')' :: rest) => continue? fuel caseless p rest
        | _ => none
    | _ =>
      match atom? caseless cs with
      | some (p, rest) => continue? fuel caseless p rest
      | none => none

/-- An item with its repetitions, and the items behind it. -/
def continue? : Nat → Bool → Pattern → List Char → Option (Pattern × Bool × List Char)
  | 0, _, _, _ => none
  | fuel + 1, caseless, p, cs =>
    match repeatAll cs.length p cs with
    | none => none
    | some (p, rest) =>
      (sequence? fuel caseless rest).map fun (q, ci, rest) => (.seq p q, ci, rest)

/-- Alternatives up to the end of the group. -/
def alternatives? : Nat → Bool → List Char → Option (Pattern × List Char)
  | 0, _, _ => none
  | fuel + 1, caseless, cs =>
    match sequence? fuel caseless cs with
    | none => none
    | some (p, ci, '|' :: rest) =>
      (alternatives? fuel ci rest).map fun (q, rest) => (.alt p q, rest)
    | some (p, _, rest) => some (p, rest)

end

/-- The pattern of a text. -/
def parse? (s : String) : Option Pattern :=
  match alternatives? (3 * s.length + 3) false s.toList with
  | some (p, []) => some p
  | _ => none

/-- The number of bytes that a compiled pattern may take. -/
def sizeLimit : Nat := 10485760

/-- The number of bytes that a character takes, once compiled. -/
def stateSize : Nat := 32

/-- The test that a text stands for; a text of too many characters does not compile. -/
def compile (s : String) : Except String (String → Bool) :=
  if sizeLimit < stateSize * s.length then
    .error s!"Compiled regex exceeds size limit of {sizeLimit} bytes."
  else
    match parse? s with
    | some p => .ok p.occursIn
    | none => .error "regex parse error"

end ClusterScript.Pattern
