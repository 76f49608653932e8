import ClusterScript.Number.Binary64
import ClusterScript.Text.Quoted
import ClusterScript.Text.Split

/-!
# Texts as YAML scalars

A text is written plain where a reader would take it back as the same text,
between quotes where it would read as a number, a truth value or null or has
characters that carry meaning, and as a block where it has line feeds.

* `Scalar.reads`: what a plain text would be read as.
* `Scalar.traits`: what stands in a text, character by character.
* `Scalar.style`: the style a text is written in.
-/
namespace ClusterScript.Yaml

inductive Style
  | plain
  | singleQuoted
  | doubleQuoted
  /-- A block of lines. -/
  | literal
deriving DecidableEq, Repr

namespace Scalar

/-! ## What a plain text reads as -/

def digitValue (c : Char) : Nat :=
  if c.isDigit then c.toNat - 48
  else if 'a' ≤ c ∧ c ≤ 'f' then c.toNat - 87
  else if 'A' ≤ c ∧ c ≤ 'F' then c.toNat - 55
  else 16

/-- The number that digits of a base stand for. -/
def natural? (base : Nat) (cs : List Char) : Option Nat :=
  if cs.isEmpty || cs.any (fun c => base ≤ digitValue c) then none
  else some (cs.foldl (fun n c => n * base + digitValue c) 0)

/-- Drops one of the signs. -/
def dropSign (signs : List Char) : List Char → List Char
  | [] => []
  | c :: rest => if signs.contains c then rest else c :: rest

/-- Zeros and other digits that no number may begin with. -/
def paddedDigits (cs : List Char) : Bool :=
  match dropSign ['-', '+'] cs with
  | '0' :: d :: rest => (d :: rest).all Char.isDigit
  | _ => false

/-- Digits of the bases two, eight and sixteen after their mark. -/
def basedNatural? : List Char → Option Nat
  | '0' :: 'x' :: rest => natural? 16 rest
  | '0' :: 'o' :: rest => natural? 8 rest
  | '0' :: 'b' :: rest => natural? 2 rest
  | _ => none

/-- Integers of at most 128 bits. -/
def readsInteger (cs : List Char) : Bool :=
  match cs with
  | '-' :: rest =>
    match basedNatural? rest with
    | some n => n ≤ Power.two 127
    | none => !paddedDigits cs && (natural? 10 rest).any (· ≤ Power.two 127)
  | _ =>
    let body := dropSign ['+'] cs
    match basedNatural? body with
    | some n => n < Power.two 128
    | none => !paddedDigits cs && (natural? 10 body).any (· < Power.two 128)

/-- The digits of a decimal number and the power of ten of the last one. -/
def decimal? (cs : List Char) : Option (List Char × Int) :=
  let whole := cs.takeWhile Char.isDigit
  let rest := cs.dropWhile Char.isDigit
  let (part, rest) := match rest with
    | '.' :: more => (more.takeWhile Char.isDigit, more.dropWhile Char.isDigit)
    | _ => ([], rest)
  let digits := whole ++ part
  if digits.isEmpty then none
  else match rest with
    | [] => some (digits, -(part.length : Int))
    | e :: more =>
      if e ≠ 'e' ∧ e ≠ 'E' then none
      else
        let body := dropSign ['-', '+'] more
        (natural? 10 body).map fun n =>
          (digits, (if more.head? = some '-' then -(n : Int) else n) - part.length)

/-- Whether `digits * 10^e` rounds to a finite binary64 number. -/
def withinRange (digits : List Char) (e : Int) : Bool :=
  let ds := digits.dropWhile (· == '0')
  let leading := ds.length + e
  if ds.isEmpty ∨ leading < 300 then true
  else if 310 < leading then false
  else
    let n := ds.foldl (fun n c => n * 10 + digitValue c) 0
    let x := if e < 0 then Binary64.ofRatio false n (Power.ten (-e).toNat)
      else Binary64.ofNat (n * Power.ten e.toNat)
    x.isFinite

/-- Floating-point numbers, with infinities and the number that is none. -/
def readsFloat (cs : List Char) : Bool :=
  let s := String.ofList cs
  let body := dropSign ['+'] cs
  if cs.head? = some '+' ∧ (body.head? = some '+' ∨ body.head? = some '-') then false
  else if [".inf", ".Inf", ".INF"].contains (String.ofList body) then true
  else if ["-.inf", "-.Inf", "-.INF", ".nan", ".NaN", ".NAN"].contains s then true
  else match decimal? (dropSign ['-'] body) with
    | some (digits, e) => withinRange digits e
    | none => false

/-- Whether a plain text would be read as something else than this text. -/
def reads (s : String) : Bool :=
  let cs := s.toList
  ["", "null", "Null", "NULL", "~", "true", "True", "TRUE", "false", "False", "FALSE"].contains s
    || readsInteger cs || paddedDigits cs || readsFloat cs

/-! ## What stands in a text -/

/-- Line ends: line feed, carriage return, next line, and the two Unicode separators. -/
def isBreak (c : Char) : Bool :=
  c == '\n' || c == '\r' || c == '\x85' || c == '\u2028' || c == '\u2029'

/-- Characters that may stand in a text without escape. -/
def isPrintable (c : Char) : Bool :=
  let n := c.toNat
  n == 0x0A || (0x20 ≤ n && n ≤ 0x7E) ||
    (0xA0 ≤ n && n ≠ 0xFEFF && n ≠ 0xFFFE && n ≠ 0xFFFF)

/-- White space, a line end, or the end of the text. -/
def isBlankOrEnd : Option Char → Bool
  | none => true
  | some c => c == ' ' || c == '\t' || c == '\x00' || isBreak c

/-- What decides on the styles a text allows. -/
structure Traits where
  /-- A character that would carry meaning. -/
  indicator : Bool
  /-- A character that needs an escape. -/
  special : Bool
  lineBreak : Bool
  leading : Bool
  trailing : Bool
  trailingSpace : Bool
  /-- A blank after a line end. -/
  breakSpace : Bool
  /-- A line end after a blank. -/
  spaceBreak : Bool
deriving DecidableEq, Repr

/-- Characters that carry meaning at the start of a text. -/
def startIndicators : List Char :=
  ['#', ',', '[', ']', '\x7b', '\x7d', '&', '*', '!', '|', '>', '\'', '"', '%', '@', '`']

/-- Whether a character carries meaning between its neighbours. -/
def isIndicator (before : Option Char) (c : Char) (after : Option Char) : Bool :=
  match before with
  | none =>
    startIndicators.contains c ||
      ((c == '?' || c == ':' || c == '-') && isBlankOrEnd after)
  | some b => (c == ':' && isBlankOrEnd after) || (c == '#' && isBlankOrEnd (some b))

/-- Whether some character of a text satisfies a condition on it and its neighbours. -/
def anyBetween (p : Option Char → Char → Option Char → Bool) : Option Char → List Char → Bool
  | _, [] => false
  | before, c :: rest => p before c rest.head? || anyBetween p (some c) rest

def traits (cs : List Char) : Traits :=
  let first := cs.head?
  let last := cs.getLast?
  { indicator :=
      ['-', '-', '-'].isPrefixOf cs || ['.', '.', '.'].isPrefixOf cs ||
        anyBetween isIndicator none cs
    special := cs.any fun c => !isPrintable c
    lineBreak := cs.any isBreak
    leading := first.any fun c => c == ' ' || isBreak c
    trailing := last.any fun c => c == ' ' || isBreak c
    trailingSpace := last == some ' '
    breakSpace := anyBetween (fun b c _ => c == ' ' && b.any isBreak) none cs
    spaceBreak := anyBetween (fun b c _ => isBreak c && b == some ' ') none cs }

namespace Traits

def allowsPlain (t : Traits) : Bool :=
  !(t.leading || t.trailing || t.breakSpace || t.spaceBreak || t.special || t.lineBreak ||
    t.indicator)

def allowsSingle (t : Traits) : Bool := !(t.breakSpace || t.spaceBreak || t.special)

def allowsBlock (t : Traits) : Bool := !(t.trailingSpace || t.spaceBreak || t.special)

end Traits

/-- The style of a text; a name before a colon stays on its line. -/
def style (s : String) (simpleKey : Bool) : Style :=
  let cs := s.toList
  let t := traits cs
  let quotes := if t.allowsSingle then Style.singleQuoted else .doubleQuoted
  if simpleKey && t.lineBreak then .doubleQuoted
  else if cs.contains '\n' then
    if t.allowsBlock && !simpleKey then .literal else .doubleQuoted
  else if reads s || !t.allowsPlain then quotes
  else .plain

/-! ## Writing -/

def indentation (n : Nat) : List Char := List.replicate n ' '

/-- Doubles single quotes; a line after a line end is indented. -/
def singleQuotedBody (indent : Nat) : Bool → List Char → List Char
  | afterBreak, [] => if afterBreak then indentation indent else []
  | afterBreak, c :: rest =>
    if isBreak c then c :: singleQuotedBody indent true rest
    else
      (if afterBreak && c != ' ' then indentation indent else []) ++
        (if c == '\'' then ['\'', '\''] else [c]) ++
        singleQuotedBody indent (afterBreak && c == ' ') rest

/-- Upper-case hexadecimal digits, padded with zeros. -/
def hexDigits (width n : Nat) : String :=
  let s := (Text.hex n).toUpper
  String.ofList (List.replicate (width - s.length) '0') ++ s

def escapeChar (c : Char) : String :=
  let n := c.toNat
  if n = 0 then "\\0"
  else if n = 7 then "\\a"
  else if n = 8 then "\\b"
  else if n = 9 then "\\t"
  else if n = 10 then "\\n"
  else if n = 11 then "\\v"
  else if n = 12 then "\\f"
  else if n = 13 then "\\r"
  else if n = 0x1B then "\\e"
  else if c = '"' then "\\\""
  else if c = '\\' then "\\\\"
  else if n = 0x85 then "\\N"
  else if n = 0x2028 then "\\L"
  else if n = 0x2029 then "\\P"
  else if isPrintable c then String.singleton c
  else if n ≤ 0xFF then "\\x" ++ hexDigits 2 n
  else if n ≤ 0xFFFF then "\\u" ++ hexDigits 4 n
  else "\\U" ++ hexDigits 8 n

/-- Lines of a block, each indented unless it is empty. -/
def blockBody (indent : Nat) : Bool → List Char → List Char
  | _, [] => []
  | atStart, c :: rest =>
    if isBreak c then c :: blockBody indent true rest
    else (if atStart then indentation indent else []) ++ c :: blockBody indent false rest

/-- How a block ends: without a line feed, with one, or with more. -/
def chomping (cs : List Char) : String :=
  match cs.reverse with
  | [] => "-"
  | [c] => if isBreak c then "+" else "-"
  | c :: d :: _ => if !isBreak c then "-" else if isBreak d then "+" else ""

/-- A block with its header; it ends with a line feed. -/
def block (indent : Nat) (cs : List Char) : String :=
  let hint := if cs.head?.any (fun c => c == ' ' || isBreak c) then "2" else ""
  let body := String.ofList (blockBody indent true cs)
  "|" ++ hint ++ chomping cs ++ "\n" ++ body ++ if body.endsWith "\n" then "" else "\n"

/-- A text on the rest of a line and the lines below, which ends with a line feed unless it
is a name before a colon. -/
def write (indent : Nat) (s : String) (simpleKey : Bool) : String :=
  let close := if simpleKey then "" else "\n"
  match style s simpleKey with
  | .plain => s ++ close
  | .singleQuoted =>
    "'" ++ String.ofList (singleQuotedBody indent false s.toList) ++ "'" ++ close
  | .doubleQuoted =>
    "\"" ++ s.toList.foldl (fun acc c => acc ++ escapeChar c) "" ++ "\"" ++ close
  | .literal => block indent s.toList

end Scalar

end ClusterScript.Yaml
