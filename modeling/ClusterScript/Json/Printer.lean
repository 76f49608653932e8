import ClusterScript.Json.Mismatch

/-!
# Writing JSON texts

Two layouts of the same tree: `Json.compact` on one line without blanks, and
`Json.pretty` with two blanks of indentation a level, empty containers closed
at once.
-/
namespace ClusterScript

/-- The two hexadecimal digits of a control character. -/
def controlDigits (n : Nat) : String := (if n < 16 then "0" else "") ++ Text.hex n

/-- A character inside a JSON string. -/
def escapeChar (c : Char) : String :=
  if c = '"' then "\\\""
  else if c = '\\' then "\\\\"
  else if c = '\n' then "\\n"
  else if c = '\r' then "\\r"
  else if c = '\t' then "\\t"
  else if c = '\x08' then "\\b"
  else if c = '\x0c' then "\\f"
  else if c.toNat < 0x20 then "\\u00" ++ controlDigits c.toNat
  else String.singleton c

def escape (s : String) : String :=
  "\"" ++ s.toList.foldl (fun acc c => acc ++ escapeChar c) "" ++ "\""

/-- An integer by its digits; other numbers by the fewest digits that read back. -/
def Number.write : Number → String
  | .whole n => toString n.val
  | .float x => if x.isFinite then Json.numberLayout.write x else "null"

namespace Json

/-- Values that are no containers. -/
def writeScalar : Json → String
  | .bool b => toString b
  | .num n => n.write
  | .str s => escape s
  | _ => "null"

mutual

def compact : Json → String
  | .arr items => "[" ++ compactItems items ++ "]"
  | .obj members => "\x7b" ++ compactMembers members ++ "\x7d"
  | j => j.writeScalar

def compactItems : List Json → String
  | [] => ""
  | [j] => compact j
  | j :: rest => compact j ++ "," ++ compactItems rest

def compactMembers : List (String × Json) → String
  | [] => ""
  | [(k, j)] => escape k ++ ":" ++ compact j
  | (k, j) :: rest => escape k ++ ":" ++ compact j ++ "," ++ compactMembers rest

end

/-- A line end and the indentation of a level. -/
def newline (level : Nat) : String := "\n" ++ String.ofList (List.replicate (2 * level) ' ')

mutual

/-- The pretty layout at a level of nesting. -/
def prettyAt (level : Nat) : Json → String
  | .arr [] => "[]"
  | .arr (j :: rest) => "[" ++ prettyItems (level + 1) (j :: rest) ++ newline level ++ "]"
  | .obj [] => "\x7b\x7d"
  | .obj (m :: rest) =>
    "\x7b" ++ prettyMembers (level + 1) (m :: rest) ++ newline level ++ "\x7d"
  | j => j.writeScalar

def prettyItems (level : Nat) : List Json → String
  | [] => ""
  | [j] => newline level ++ prettyAt level j
  | j :: rest => newline level ++ prettyAt level j ++ "," ++ prettyItems level rest

def prettyMembers (level : Nat) : List (String × Json) → String
  | [] => ""
  | [(k, j)] => newline level ++ escape k ++ ": " ++ prettyAt level j
  | (k, j) :: rest =>
    newline level ++ escape k ++ ": " ++ prettyAt level j ++ "," ++ prettyMembers level rest

end

def pretty (j : Json) : String := prettyAt 0 j

end Json

end ClusterScript
