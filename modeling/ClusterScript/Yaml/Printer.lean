import ClusterScript.Json.Basic
import ClusterScript.Number.Decimal
import ClusterScript.Yaml.Scalar

/-!
# Writing YAML texts

Trees in block style: a member a line, an item after a dash. Items of a list
stand as far left as the name they belong to; all else moves two places in.
A long name, or one of several lines, follows a question mark.
-/
namespace ClusterScript

namespace Yaml

/-- How floating-point numbers are written. -/
def numberLayout : Decimal.Layout := ⟨-5, 16, ""⟩

def writeNumber : Number → String
  | .whole n => toString n.val
  | .float x => numberLayout.write x

/-- Names of at most 128 bytes on one line stand before a colon. -/
def isSimpleKey (k : String) : Bool :=
  k.utf8ByteSize ≤ 128 && !k.toList.any Scalar.isBreak

def spaces (n : Nat) : String := String.ofList (Scalar.indentation n)

mutual

/-- A value after a dash, or after the colon of a long name; its own lines are indented. -/
def compactNode (indent : Nat) : Json → String
  | .arr [] => "[]\n"
  | .obj [] => "\x7b\x7d\n"
  | .arr (j :: rest) => "- " ++ compactNode (indent + 2) j ++ items indent rest
  | .obj ((k, j) :: rest) => member indent k j ++ members indent rest
  | .str s => Scalar.write indent s false
  | .null => "null\n"
  | .bool b => toString b ++ "\n"
  | .num n => writeNumber n ++ "\n"

/-- The items of a list, each on lines of its own. -/
def items (indent : Nat) : List Json → String
  | [] => ""
  | j :: rest => spaces indent ++ "- " ++ compactNode (indent + 2) j ++ items indent rest

/-- A member; the indentation of its first line is already written. -/
def member (indent : Nat) (k : String) : Json → String
  | .arr [] => key indent k ++ " []\n"
  | .obj [] => key indent k ++ " \x7b\x7d\n"
  | .arr (j :: rest) =>
    if isSimpleKey k then
      key indent k ++ "\n" ++ spaces indent ++ "- " ++ compactNode (indent + 2) j ++
        items indent rest
    else
      key indent k ++ " - " ++ compactNode (indent + 4) j ++ items (indent + 2) rest
  | .obj ((k', j) :: rest) =>
    if isSimpleKey k then
      key indent k ++ "\n" ++ spaces (indent + 2) ++ member (indent + 2) k' j ++
        members (indent + 2) rest
    else key indent k ++ " " ++ member (indent + 2) k' j ++ members (indent + 2) rest
  | .str s => key indent k ++ " " ++ Scalar.write (indent + 2) s false
  | .null => key indent k ++ " null\n"
  | .bool b => key indent k ++ " " ++ toString b ++ "\n"
  | .num n => key indent k ++ " " ++ writeNumber n ++ "\n"

/-- A name with its colon. -/
def key (indent : Nat) (k : String) : String :=
  if isSimpleKey k then Scalar.write (indent + 2) k true ++ ":"
  else "? " ++ Scalar.write (indent + 2) k false ++ spaces indent ++ ":"

/-- The members of an object, each on lines of its own. -/
def members (indent : Nat) : List (String × Json) → String
  | [] => ""
  | (k, j) :: rest => spaces indent ++ member indent k j ++ members indent rest

end

end Yaml

/-- The YAML text of a tree. -/
def Json.yaml (j : Json) : String :=
  match j with
  | .str s => Yaml.Scalar.write 2 s false
  | j => Yaml.compactNode 0 j

end ClusterScript
