/-!
# Splitting and joining

Cutting a text at a separator: at its first occurrence (`splitOnce`), at every
one (`splitOn`), or into lines (`lines`). `join` puts parts together again.
-/
namespace ClusterScript.Text

/-- What stands before and after the first `sep`. -/
def splitOnceChars (sep : List Char) : List Char → Option (List Char × List Char)
  | [] => if sep.isEmpty then some ([], []) else none
  | c :: rest =>
    if sep.isPrefixOf (c :: rest) then some ([], (c :: rest).drop sep.length)
    else (splitOnceChars sep rest).map fun (before, after) => (c :: before, after)

def splitOnce (sep s : String) : Option (String × String) :=
  (splitOnceChars sep.toList s.toList).map fun (before, after) =>
    (String.ofList before, String.ofList after)

/-- The parts between the occurrences of `sep`, one more than there are of them. -/
def splitOnChars (sep : Char) : List Char → List (List Char)
  | [] => [[]]
  | c :: rest =>
    if c = sep then [] :: splitOnChars sep rest
    else match splitOnChars sep rest with
      | [] => [[c]]
      | part :: parts => (c :: part) :: parts

def splitOn (sep : Char) (s : String) : List String :=
  (splitOnChars sep s.toList).map String.ofList

/-- The parts with `sep` between them. -/
def join (sep : String) : List String → String
  | [] => ""
  | [s] => s
  | s :: rest => s ++ sep ++ join sep rest

/-- A line without the carriage return that ends it. -/
def dropReturn (cs : List Char) : List Char :=
  match cs.reverse with
  | '\r' :: rest => rest.reverse
  | _ => cs

/-- Lines end at a line feed, with or without a carriage return before it; a last line without
a line feed is kept as it is, unless it is empty. -/
def linesOf : List (List Char) → List (List Char)
  | [] => []
  | [last] => if last.isEmpty then [] else [last]
  | line :: rest => dropReturn line :: linesOf rest

def lines (s : String) : List String := (linesOf (splitOnChars '\n' s.toList)).map String.ofList

/-- Drops line feeds at the end. -/
def dropFeeds (s : String) : String :=
  String.ofList (s.toList.reverse.dropWhile (· == '\n')).reverse

/-- Whether `p` begins the text. -/
def startsWith (p s : String) : Bool := p.toList.isPrefixOf s.toList

end ClusterScript.Text
