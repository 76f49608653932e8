import ClusterScript.Json.Reader
import ClusterScript.Script.Tree
import ClusterScript.Text.Blank
import ClusterScript.Text.Utf8

/-!
# Scripts as JSON

A script is written as JSON: scalars stand for themselves, and an object is
an expression or a statement of the form that one of its members names. A
bare name is the variable of that name.

* `Chunk.ofJson`: the chunk that a tree writes.
* `Chunk.ofText`: the chunk that a text writes.
* `isUnfinished`: whether a text lacks its end.
-/
namespace ClusterScript.Script

namespace Notation

mutual

/-- How deep lists and objects nest. -/
def depth : Json → Nat
  | .arr items => depthOfItems items + 1
  | .obj members => depthOfMembers members + 1
  | _ => 0

def depthOfItems : List Json → Nat
  | [] => 0
  | j :: rest => max (depth j) (depthOfItems rest)

def depthOfMembers : List (String × Json) → Nat
  | [] => 0
  | (_, j) :: rest => max (depth j) (depthOfMembers rest)

end

def text (j : Json) : String := j.asString?.getD ""

def items : Json → List Json
  | .arr l => l
  | _ => []

/-- The item at a position; null if there is none. -/
def item (j : Json) (i : Nat) : Json := (items j)[i]?.getD .null

def natural : Json → Nat
  | .num (.whole n) => n.val.toNat
  | _ => 0

/-- The value of a digit of base 16. -/
def hexDigit (c : Char) : Nat :=
  if c.isDigit then c.toNat - 48
  else if 'a' ≤ c ∧ c ≤ 'f' then c.toNat - 87
  else if 'A' ≤ c ∧ c ≤ 'F' then c.toNat - 55
  else 0

/-- The bytes that pairs of digits of base 16 write. -/
def hexBytes : List Char → List UInt8
  | a :: b :: rest => UInt8.ofNat (16 * hexDigit a + hexDigit b) :: hexBytes rest
  | _ => []

/-- The number whose bits are written as sixteen digits of base 16. -/
def bits (s : String) : Binary64 :=
  ⟨UInt64.ofNat (s.toList.foldl (fun n c => 16 * n + hexDigit c) 0)⟩

def number : Number → Expr
  | .whole n => .int (Int64.ofInt n.val)
  | .float x => .float x

def repeated (s : String) (n : Nat) : String := String.join (List.replicate n s)

/-- The forms of expressions by the member that names them. -/
def forms (expr : Json → Expr) (block : Json → List Stmt) (j : Json) :
    List (String × (Json → Expr)) :=
  [("g", fun x => .var (text x)),
    ("f64", fun x => .float (bits (text x))),
    ("bytes", fun x => .bytes (hexBytes (text x).toList)),
    ("arr", fun x => .list ((items x).map expr)),
    ("tbl", fun x => .table ((items x).map fun e => .mk (expr (item e 0)) (expr (item e 1)))),
    ("nest", fun x => .nest (natural (item x 0)) (expr (item x 1))),
    ("rep", fun x => .text (repeated (text (item x 0)) (natural (item x 1)))),
    ("idx", fun x => .index (expr (item x 0)) (expr (item x 1))),
    ("call", fun x => .call (expr (item x 0)) (((items x).drop 1).map expr)),
    ("m", fun x => .method (expr (item x 0)) (text (item x 1)) (((items x).drop 2).map expr)),
    ("fn", fun x => .function ((items x).map text) (block (j.get "body"))),
    ("eq", fun x => .equal (expr (item x 0)) (expr (item x 1))),
    ("not", fun x => .not (expr x)),
    ("len", fun x => .length (expr x)),
    ("concat", fun x => .concat (expr (item x 0)) (expr (item x 1)))]

/-- The forms of statements by the member that names them. -/
def statementForms (expr : Json → Expr) (block : Json → List Stmt) (j : Json) :
    List (String × (Json → Stmt)) :=
  [("let", fun x => .declare (text x) (expr (j.get "be"))),
    ("set", fun x => .assign (text x) (expr (j.get "be"))),
    ("setidx", fun x => .assignIndex (expr (item x 0)) (expr (item x 1)) (expr (item x 2))),
    ("ret", fun x => .ret ((items x).map expr)),
    ("do", fun x => .run (expr x)),
    ("raise", fun x => .raise (expr x)),
    ("if", fun x => .branch (expr x) (block (j.get "then")) (block (j.get "else"))),
    ("for", fun x => .loop (text (item x 0)) (natural (item x 1)) (block (j.get "body")))]

/-- The form that the members of an object name. -/
def choose (forms : List (String × (Json → α))) (j : Json) : Option α :=
  forms.findSome? fun (name, form) =>
    (j.members?.bind fun members => members.lookup name).map form

mutual

/-- The expression that a tree of bounded depth writes. -/
def expr : Nat → Json → Expr
  | 0, _ => .nil
  | fuel + 1, j =>
    match j with
    | .null | .arr _ => .nil
    | .bool b => .bool b
    | .num n => number n
    | .str s => .text s
    | .obj _ => (choose (forms (expr fuel) (block fuel) j) j).getD .nil

def statement : Nat → Json → Stmt
  | 0, _ => .ret []
  | fuel + 1, j => (choose (statementForms (expr fuel) (block fuel) j) j).getD (.ret [])

def block : Nat → Json → List Stmt
  | 0, _ => []
  | fuel + 1, j => (items j).map (statement fuel)

end

end Notation

/-- The expression that a tree writes. -/
def Expr.ofJson (j : Json) : Expr := Notation.expr (Notation.depth j + 1) j

/-- The chunk that a tree writes: a list of statements or one expression. -/
def Chunk.ofJson (j : Json) : Chunk :=
  match j with
  | .arr _ => .block (Notation.block (Notation.depth j + 2) j)
  | j => if j.get "broken" == .bool true then .broken else .expr (Expr.ofJson j)

/-! ## Texts -/

/-- Words that are no names of variables. -/
def keywords : List String :=
  ["and", "break", "do", "else", "elseif", "end", "false", "for", "function", "goto", "if", "in",
    "local", "nil", "not", "or", "repeat", "return", "then", "true", "until", "while"]

/-- Letters, digits and underscores, the first no digit, and no keyword. -/
def isName (s : String) : Bool :=
  match s.toList with
  | [] => false
  | c :: rest => (c.isAlpha || c == '_') && rest.all (fun c => c.isAlphanum || c == '_') &&
      !keywords.contains s

/-- The chunk that a text writes; nothing at all is an empty one. -/
def Chunk.ofText (s : String) : Chunk :=
  if Text.blank s then .block []
  else if isName (Text.trim s) then .expr (.var (Text.trim s))
  else match Json.read s with
    | .ok j => .ofJson j
    | .error _ => .broken

/-- Whether a reader came to the end of a text too early. -/
def endedEarly : TextFault → Bool
  | .endOfList | .endOfObject | .endOfString | .endOfValue => true
  | _ => false

/-- Whether a text lacks its end, so that further lines may complete it. -/
def isUnfinished (s : String) : Bool :=
  !Text.blank s && !isName (Text.trim s) &&
    match Json.read s with
    | .ok _ => false
    | .error stop => endedEarly stop.cause

end ClusterScript.Script
