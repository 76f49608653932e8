import ClusterScript.Number.Binary64

/-!
# Scripts

A script is a tree of statements and expressions. A chunk is what is run at
once: one expression, a list of statements, or a text that does not parse.
-/
namespace ClusterScript.Script

mutual

inductive Expr
  | nil
  | bool (b : Bool)
  | int (i : Int64)
  | float (x : Binary64)
  | text (s : String)
  | bytes (b : List UInt8)
  /-- The innermost local of a name, else the global. -/
  | var (name : String)
  /-- A table of values at 1, 2, ... -/
  | list (items : List Expr)
  | table (entries : List Entry)
  /-- A table in a table in a table, `depth` of them but at least one. -/
  | nest (depth : Nat) (inner : Expr)
  | index (object key : Expr)
  | call (function : Expr) (args : List Expr)
  | method (object : Expr) (name : String) (args : List Expr)
  | function (params : List String) (body : List Stmt)
  | equal (a b : Expr)
  | not (e : Expr)
  | length (e : Expr)
  | concat (a b : Expr)

/-- A key with its value in a table constructor. -/
inductive Entry
  | mk (key value : Expr)

inductive Stmt
  | declare (name : String) (value : Expr)
  /-- To the local of a name that is in scope, else to the global. -/
  | assign (name : String) (value : Expr)
  | assignIndex (object key value : Expr)
  | ret (values : List Expr)
  | run (e : Expr)
  | raise (e : Expr)
  | branch (condition : Expr) (yes no : List Stmt)
  /-- Runs the body for each number from 1 to `count`. -/
  | loop (name : String) (count : Nat) (body : List Stmt)

end

instance : Inhabited Expr := ⟨.nil⟩

instance : Inhabited Stmt := ⟨.ret []⟩

inductive Chunk
  | expr (e : Expr)
  | block (body : List Stmt)
  | broken
deriving Inhabited

/-- The expression that a chunk is, if it can stand behind `return`. -/
def Chunk.expression? : Chunk → Option Expr
  | .expr e => some e
  | .block [.run (.call f args)] => some (.call f args)
  | .block [.run (.method o name args)] => some (.method o name args)
  | _ => none

end ClusterScript.Script
