import ClusterScript.Text.Split
import ClusterScript.Text.Width

/-!
# Tables

Rows of texts with a border around them, a line below the headings, and the
number of rows at the end. A column is as wide as its widest line, by the
width that a terminal gives to its characters; cells may have several lines.
-/
namespace ClusterScript.Output

structure Table where
  columns : List String
  rows : List (List String)
deriving DecidableEq, Repr, Inhabited

namespace Table

/-- `WIDE_COLUMNS`: columns whose cells are cut. -/
def cutColumns : List String := ["LABELS", "ANNOTATIONS"]

/-- `MAX_WIDE_COLUMN_WIDTH`: the most characters of a cell that may be cut. -/
def maxCell : Nat := 60

/-- `truncate_value`: the first characters and three points, if there are too many. -/
def cut (s : String) : String :=
  let cs := s.toList
  if cs.length ≤ maxCell then s else String.ofList (cs.take (maxCell - 3)) ++ "..."

/-- Cuts the cells of a row that stand below a heading of `cutColumns`. -/
def cutRow (columns row : List String) : List String :=
  row.zipIdx.map fun (cell, i) =>
    if (columns[i]?).any fun c => cutColumns.contains c then cut cell else cell

/-- A row as columns of lines. -/
abbrev Lines := List (List String)

def linesOf (row : List String) : Lines := row.map (Text.splitOn '\n')

def lineWidth (lines : List String) : Nat := (lines.map Text.displayWidth).foldl max 0

/-- The width of a column, at least one place. -/
def columnWidth (rows : List Lines) (i : Nat) : Nat :=
  (rows.map fun row => lineWidth (row.getD i [])).foldl max 1

def columnCount (rows : List Lines) : Nat := (rows.map List.length).foldl max 0

def spaces (n : Nat) : String := String.ofList (List.replicate n ' ')

def pad (width : Nat) (s : String) : String := s ++ spaces (width - Text.displayWidth s)

/-- The lines of a row: each column padded, three places between columns. -/
def rowLines (widths : List Nat) (row : Lines) : List String :=
  let cells := widths.zipIdx.map fun (w, i) => (w, row.getD i [""])
  let height := (cells.map fun (_, lines) => lines.length).foldl max 0
  (List.range height).map fun k =>
    "| " ++ Text.join "   " (cells.map fun (w, lines) => pad w (lines.getD k "")) ++ " |"

/-- A line across the table. -/
def rule (c : Char) (widths : List Nat) : String :=
  let inner := (widths.map (· + 2)).foldl (· + ·) 0 + (widths.length - 1)
  "+" ++ String.ofList (List.replicate inner c) ++ "+"

/-- `format`: the text of a table, with its headings or without. -/
def text (t : Table) (headings : Bool) : String :=
  if t.rows.isEmpty then "No resources found"
  else
    let rows := t.rows.map fun row => linesOf (cutRow t.columns row)
    let header := if headings then [linesOf t.columns] else []
    let all := header ++ rows
    let widths := (List.range (columnCount all)).map (columnWidth all)
    let top := header.flatMap fun h => rowLines widths h ++ [rule '=' widths]
    let n := t.rows.length
    Text.join "\n"
      ([rule '-' widths] ++ top ++ rows.flatMap (rowLines widths) ++ [rule '-' widths,
        s!"({n} " ++ (if n = 1 then "item" else "items") ++ ")"])

end Table

end ClusterScript.Output
