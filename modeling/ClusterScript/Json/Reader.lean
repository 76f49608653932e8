import ClusterScript.Json.Mismatch

/-!
# Reading JSON texts

A reader walks a text from left to right. It stops with a cause and the
number of bytes it had seen, which a message turns into line and column.
Containers may nest 127 deep.

* `Json.read`: the tree of a text.
-/
namespace ClusterScript

/-- Why a text is not the JSON that was wanted. -/
inductive TextFault
  | endOfList
  | endOfObject
  | endOfString
  | endOfValue
  | noColon
  | noListEnd
  | noObjectEnd
  | noIdentifier
  | noValue
  | badEscape
  | badNumber
  | outOfRange
  | controlCharacter
  | keyNotText
  | loneSurrogate
  | trailingComma
  | trailingCharacters
  | endOfHexEscape
  | tooDeep
  | mismatch (m : Mismatch)
deriving DecidableEq, Repr

def TextFault.describe : TextFault → String
  | .endOfList => "EOF while parsing a list"
  | .endOfObject => "EOF while parsing an object"
  | .endOfString => "EOF while parsing a string"
  | .endOfValue => "EOF while parsing a value"
  | .noColon => "expected `:`"
  | .noListEnd => "expected `,` or `]`"
  | .noObjectEnd => "expected `,` or `\x7d`"
  | .noIdentifier => "expected ident"
  | .noValue => "expected value"
  | .badEscape => "invalid escape"
  | .badNumber => "invalid number"
  | .outOfRange => "number out of range"
  | .controlCharacter => "control character (\\u0000-\\u001F) found while parsing a string"
  | .keyNotText => "key must be a string"
  | .loneSurrogate => "lone leading surrogate in hex escape"
  | .trailingComma => "trailing comma"
  | .trailingCharacters => "trailing characters"
  | .endOfHexEscape => "unexpected end of hex escape"
  | .tooDeep => "recursion limit exceeded"
  | .mismatch m => m.message

/-- Where a reader stands: the text before it in bytes, and the text after it. -/
structure Cursor where
  index : Nat
  rest : List Char

/-- Where and why a reader stopped. -/
structure Stop where
  cause : TextFault
  index : Nat
deriving DecidableEq, Repr

/-- The column after `index` bytes, counted from the last line feed, and the lines before. -/
def position : Nat → Nat → List Char → Nat × Nat
  | line, column, [] => (line, column)
  | line, column, c :: rest =>
    if c = '\n' then position (line + 1) 0 rest else position line (column + c.utf8Size) rest

/-- The first characters of a text, up to a number of bytes. -/
def takeBytes : Nat → List Char → List Char
  | _, [] => []
  | n, c :: rest => if c.utf8Size ≤ n then c :: takeBytes (n - c.utf8Size) rest else []

def Stop.message (s : Stop) (text : String) : String :=
  let (line, column) := position 1 0 (takeBytes s.index text.toList)
  s!"{s.cause.describe} at line {line} column {column}"

abbrev Reader := StateT Cursor (Except Stop)

namespace Reader

def run (r : Reader α) (text : String) : Except Stop α :=
  (r ⟨0, text.toList⟩).map (·.1)

/-- Stops with the bytes seen so far. -/
def stop (cause : TextFault) : Reader α := do throw ⟨cause, (← get).index⟩

/-- Stops counting the next byte as seen. -/
def stopAhead (cause : TextFault) : Reader α := do
  let c ← get
  throw ⟨cause, if c.rest.isEmpty then c.index else c.index + 1⟩

def mismatch (m : Mismatch) : Reader α := stop (.mismatch m)

def peek : Reader (Option Char) := do return (← get).rest.head?

/-- Passes over the next character. -/
def advance : Reader Unit := modify fun c =>
  match c.rest with
  | [] => c
  | x :: rest => ⟨c.index + x.utf8Size, rest⟩

def next : Reader (Option Char) := do
  let c ← peek
  advance
  return c

def isSpace (c : Char) : Bool := c == ' ' || c == '\n' || c == '\t' || c == '\r'

/-- The next character that is no white space. -/
def peekPastSpace : Reader (Option Char) := do
  modify fun c =>
    let blanks := c.rest.takeWhile isSpace
    ⟨c.index + blanks.length, c.rest.dropWhile isSpace⟩
  peek

/-! ## Strings -/

def hexValue? (c : Char) : Option Nat :=
  if c.isDigit then some (c.toNat - 48)
  else if 'a' ≤ c ∧ c ≤ 'f' then some (c.toNat - 87)
  else if 'A' ≤ c ∧ c ≤ 'F' then some (c.toNat - 55)
  else none

/-- Four hexadecimal digits. -/
def fourHex : Reader Nat := do
  match (← get).rest with
  | a :: b :: c :: d :: _ =>
    advance; advance; advance; advance
    match hexValue? a, hexValue? b, hexValue? c, hexValue? d with
    | some a, some b, some c, some d => return ((a * 16 + b) * 16 + c) * 16 + d
    | _, _, _, _ => stop .badEscape
  | _ =>
    modify fun c => ⟨c.index + (String.ofList c.rest).utf8ByteSize, []⟩
    stop .endOfString

/-- One of the two characters that continue a surrogate pair. -/
def pairMark (wanted : Char) : Reader Unit := do
  match ← peek with
  | none => stop .endOfString
  | some c =>
    advance
    if c = wanted then return () else stop .endOfHexEscape

/-- The character of a `\u` escape, which may take two of them. -/
def codePoint : Reader Char := do
  let n ← fourHex
  if 0xDC00 ≤ n ∧ n ≤ 0xDFFF then stop .loneSurrogate
  else if n < 0xD800 ∨ 0xDBFF < n then return Char.ofNat n
  else
    pairMark '\\'
    pairMark 'u'
    let low ← fourHex
    if low < 0xDC00 ∨ 0xDFFF < low then stop .loneSurrogate
    else return Char.ofNat ((n - 0xD800) * 1024 + (low - 0xDC00) + 0x10000)

def escaped : Reader Char := do
  match ← next with
  | none => stop .endOfString
  | some '"' => return '"'
  | some '\\' => return '\\'
  | some '/' => return '/'
  | some 'b' => return '\x08'
  | some 'f' => return '\x0c'
  | some 'n' => return '\n'
  | some 'r' => return '\r'
  | some 't' => return '\t'
  | some 'u' => codePoint
  | some _ => stop .badEscape

/-- The rest of a string, of at most `fuel` characters; `read` holds the ones before, reversed. -/
def stringBody : Nat → List Char → Reader String
  | 0, _ => stop .endOfString
  | fuel + 1, read => do
    match ← peek with
    | none => stop .endOfString
    | some '"' =>
      advance
      return String.ofList read.reverse
    | some '\\' =>
      advance
      let c ← escaped
      stringBody fuel (c :: read)
    | some c =>
      advance
      if c.toNat < 0x20 then stop .controlCharacter else stringBody fuel (c :: read)

/-- A string whose opening quote is the next character. -/
def string : Reader String := do
  advance
  stringBody ((← get).rest.length + 1) []

/-! ## Numbers -/

/-- The decimal digits ahead. -/
def digits : Reader (List Nat) := do
  let ahead := (← get).rest.takeWhile Char.isDigit
  modify fun c => ⟨c.index + ahead.length, c.rest.drop ahead.length⟩
  return ahead.map fun c => c.toNat - 48

/-- Appends digits while the result stays within 64 bits; returns it and the digits left over. -/
def accumulate (limit : Nat) : Nat → List Nat → Nat × List Nat
  | n, [] => (n, [])
  | n, d :: rest =>
    if n * 10 + d ≤ limit then accumulate limit (n * 10 + d) rest else (n, d :: rest)

def maxSignificand : Nat := 0xFFFFFFFFFFFFFFFF

/-- The number `significand * 10^exponent`: the digits are rounded once, and the scaling by a
power of ten once more; a number too small becomes zero, one too large is out of range. -/
def scaled (negative : Bool) (significand : Nat) (exponent : Int) : Reader Number := do
  let whole := Binary64.ofNat significand
  let signed (x : Binary64) : Number := .float (if negative then x.negate else x)
  if significand = 0 then return signed whole
  else if 308 < exponent then stop .outOfRange
  else if 0 ≤ exponent then
    let x := whole.scaleTen exponent
    if x.isFinite then return signed x else stop .outOfRange
  else if -308 ≤ exponent then return signed (whole.scaleTen exponent)
  else if -616 ≤ exponent then
    return signed ((whole.scaleTen (-308)).scaleTen (exponent + 308))
  else return signed ((whole.scaleTen (-308)).scaleTen (-308))

/-- An exponent, the letter being the next character. -/
def exponentPart (negative : Bool) (significand : Nat) (start : Int) : Reader Number := do
  advance
  let sign ← peek
  let positive := sign ≠ some '-'
  if sign = some '+' ∨ sign = some '-' then advance
  match ← peek with
  | none => stop .endOfValue
  | some c =>
    if !c.isDigit then
      advance
      stop .badNumber
    else
      let (e, left) := accumulate 0x7FFFFFFF 0 (← digits)
      if !left.isEmpty then
        if significand ≠ 0 ∧ positive then stop .outOfRange
        else return .float (Binary64.zero negative)
      else scaled negative significand (if positive then start + e else start - e)

/-- A fraction, the point being the next character; digits beyond 64 bits are passed over. -/
def fractionPart (negative : Bool) (significand : Nat) (start : Int) : Reader Number := do
  advance
  let ds ← digits
  if ds.isEmpty then
    match ← peek with
    | some _ => stopAhead .badNumber
    | none => stop .endOfValue
  else
    let (n, left) := accumulate maxSignificand significand ds
    let exponent := start - (ds.length - left.length : Nat)
    match ← peek with
    | some 'e' | some 'E' => exponentPart negative n exponent
    | _ => scaled negative n exponent

/-- What follows the digits before the point; `dropped` of them did not fit into 64 bits. -/
def numberTail (negative : Bool) (significand dropped : Nat) : Reader Number := do
  match ← peek with
  | some '.' => fractionPart negative significand dropped
  | some 'e' | some 'E' => exponentPart negative significand dropped
  | _ =>
    if dropped ≠ 0 then scaled negative significand dropped
    else if negative ∧ significand = 0 then return .float (Binary64.zero true)
    else
      let i : Int := if negative then -(significand : Int) else significand
      match WholeNumber.ofInt? i with
      | some n => return .whole n
      | none => return .float (Binary64.ofInt i)

/-- A number after its sign. -/
def numberAfterSign (negative : Bool) : Reader Number := do
  match ← peek with
  | none => stop .endOfValue
  | some '0' =>
    advance
    match ← peek with
    | some c => if c.isDigit then stopAhead .badNumber else numberTail negative 0 0
    | none => numberTail negative 0 0
  | some c =>
    if c.isDigit then
      let (n, left) := accumulate maxSignificand 0 (← digits)
      numberTail negative n left.length
    else
      advance
      stop .badNumber

/-- A number whose sign or first digit is the next character. -/
def number : Reader Number := do
  if (← peek) = some '-' then
    advance
    numberAfterSign true
  else numberAfterSign false

/-! ## Containers -/

/-- The letters of a word after its first one. -/
def word : List Char → Reader Unit
  | [] => return ()
  | c :: rest => do
    match ← next with
    | none => stop .endOfValue
    | some x => if x = c then word rest else stop .noIdentifier

/-- Whether another element follows; passes over the comma before it. -/
def anotherElement (first : Bool) : Reader Bool := do
  match ← peekPastSpace with
  | none => stopAhead .endOfList
  | some ']' => return false
  | some c =>
    if first then return true
    else if c = ',' then
      advance
      match ← peekPastSpace with
      | some ']' => stopAhead .trailingComma
      | some _ => return true
      | none => stopAhead .endOfValue
    else stopAhead .noListEnd

/-- Whether another member follows; passes over the comma before it. -/
def anotherMember (first : Bool) : Reader Bool := do
  match ← peekPastSpace with
  | none => stopAhead .endOfObject
  | some '\x7d' => return false
  | some c =>
    if first then
      if c = '"' then return true else stopAhead .keyNotText
    else if c = ',' then
      advance
      match ← peekPastSpace with
      | some '"' => return true
      | some '\x7d' => stopAhead .trailingComma
      | some _ => stopAhead .keyNotText
      | none => stopAhead .endOfValue
    else stopAhead .noObjectEnd

/-- The colon after a name. -/
def colon : Reader Unit := do
  match ← peekPastSpace with
  | some ':' => advance
  | some _ => stopAhead .noColon
  | none => stopAhead .endOfObject

mutual

/-- One value; containers may nest `depth` deep, and at most `fuel` steps are made. -/
def value : Nat → Nat → Reader Json
  | 0, _ => stop .tooDeep
  | fuel + 1, depth => do
    match ← peekPastSpace with
    | none => stopAhead .endOfValue
    | some 'n' =>
      advance
      word ['u', 'l', 'l']
      return .null
    | some 't' =>
      advance
      word ['r', 'u', 'e']
      return .bool true
    | some 'f' =>
      advance
      word ['a', 'l', 's', 'e']
      return .bool false
    | some '"' => return .str (← string)
    | some '[' =>
      match depth with
      | 0 => stopAhead .tooDeep
      | depth + 1 =>
        advance
        return .arr (← elements fuel depth true)
    | some '\x7b' =>
      match depth with
      | 0 => stopAhead .tooDeep
      | depth + 1 =>
        advance
        return Json.ofMembers (← members fuel depth true)
    | some c =>
      if c = '-' || c.isDigit then return .num (← number) else stopAhead .noValue

/-- The elements up to the closing bracket. -/
def elements : Nat → Nat → Bool → Reader (List Json)
  | 0, _, _ => stop .tooDeep
  | fuel + 1, depth, first => do
    if ← anotherElement first then
      let v ← value fuel depth
      let rest ← elements fuel depth false
      return v :: rest
    else
      advance
      return []

/-- The members up to the closing brace, in the order of the text. -/
def members : Nat → Nat → Bool → Reader (List (String × Json))
  | 0, _, _ => stop .tooDeep
  | fuel + 1, depth, first => do
    if ← anotherMember first then
      let key ← string
      colon
      let v ← value fuel depth
      let rest ← members fuel depth false
      return (key, v) :: rest
    else
      advance
      return []

end

/-- Steps enough for the text ahead: each takes a character or is one of three around it. -/
def budget : Reader Nat := do return 3 * (← get).rest.length + 3

/-- The deepest nesting of containers. -/
def maxDepth : Nat := 127

/-- One value, within the nesting limit. -/
def json : Reader Json := do value (← budget) maxDepth

/-- Nothing but white space is left. -/
def finish : Reader Unit := do
  match ← peekPastSpace with
  | some _ => stopAhead .trailingCharacters
  | none => return ()

end Reader

/-- The tree of a JSON text. -/
def Json.read (text : String) : Except Stop Json :=
  Reader.run (do let j ← Reader.json; Reader.finish; return j) text

end ClusterScript
