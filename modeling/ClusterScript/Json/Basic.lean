import ClusterScript.Number.Binary64

/-!
# JSON trees

Cluster objects travel as JSON. A number is an integer of 64 bits, signed or
unsigned, or a binary64 number. The members of an object stand in ascending
order of their names, each name once; `Canonical` says so of a whole tree,
and `Json.ofMembers` and `Json.put` keep it.

* `Json.get`: a member, null where there is none.
* `insertMember_sorted`: inserting keeps the order.
-/
namespace ClusterScript

/-- An integer of 64 bits, signed or unsigned. -/
structure WholeNumber where
  val : Int
  lower : -0x8000000000000000 ≤ val := by omega
  upper : val < 0x10000000000000000 := by omega
deriving DecidableEq, Repr

namespace WholeNumber

def ofInt? (i : Int) : Option WholeNumber :=
  if h : -0x8000000000000000 ≤ i ∧ i < 0x10000000000000000 then some ⟨i, h.1, h.2⟩ else none

def ofInt64 (i : Int64) : WholeNumber :=
  ⟨i.toInt, by have := Int64.le_toInt i; omega, by have := Int64.toInt_lt i; omega⟩

/-- The signed integer of 64 bits of the same value. -/
def toInt64? (n : WholeNumber) : Option Int64 :=
  if n.val < Power.signedLimit then some (Int64.ofInt n.val) else none

instance : Inhabited WholeNumber := ⟨⟨0, by decide, by decide⟩⟩

end WholeNumber

inductive Number
  | whole (n : WholeNumber)
  | float (x : Binary64)
deriving DecidableEq, Repr, Inhabited

/-- The nearest binary64 number. -/
def Number.toBinary64 : Number → Binary64
  | .whole n => Binary64.ofInt n.val
  | .float x => x

inductive Json
  | null
  | bool (b : Bool)
  | num (n : Number)
  | str (s : String)
  | arr (items : List Json)
  | obj (members : List (String × Json))
deriving Inhabited, Repr

namespace Json

mutual

/-- Whether two trees are the same. -/
def beq : Json → Json → Bool
  | .null, .null => true
  | .bool a, .bool b => a == b
  | .num a, .num b => a == b
  | .str a, .str b => a == b
  | .arr a, .arr b => beqItems a b
  | .obj a, .obj b => beqMembers a b
  | _, _ => false

def beqItems : List Json → List Json → Bool
  | [], [] => true
  | a :: as, b :: bs => beq a b && beqItems as bs
  | _, _ => false

def beqMembers : List (String × Json) → List (String × Json) → Bool
  | [], [] => true
  | (k, a) :: as, (l, b) :: bs => k == l && beq a b && beqMembers as bs
  | _, _ => false

end

instance : BEq Json := ⟨beq⟩

/-- Puts a member at its place, in the stead of one of the same name. -/
def insertMember (key : String) (value : Json) :
    List (String × Json) → List (String × Json)
  | [] => [(key, value)]
  | (k, v) :: rest =>
    if key < k then (key, value) :: (k, v) :: rest
    else if key = k then (key, value) :: rest
    else (k, v) :: insertMember key value rest

/-- Members in their order, a later one of the same name winning. -/
def sortMembers (members : List (String × Json)) : List (String × Json) :=
  members.foldl (fun acc (k, v) => insertMember k v acc) []

def ofMembers (members : List (String × Json)) : Json := .obj (sortMembers members)

/-- A member of an object; null if there is none or the value is no object. -/
def get (j : Json) (key : String) : Json :=
  match j with
  | .obj members => (members.lookup key).getD .null
  | _ => .null

/-- The text of a string value. -/
def asString? : Json → Option String
  | .str s => some s
  | _ => none

/-- The members of an object. -/
def members? : Json → Option (List (String × Json))
  | .obj members => some members
  | _ => none

/-- Sets a member of an object and leaves other values alone. -/
def put (j : Json) (key : String) (value : Json) : Json :=
  match j with
  | .obj members => .obj (insertMember key value members)
  | other => other

/-- Drops a member of an object. -/
def remove (j : Json) (key : String) : Json :=
  match j with
  | .obj members => .obj (members.filter fun (k, _) => k ≠ key)
  | other => other

def ofNat (n : Nat) : Json :=
  match WholeNumber.ofInt? n with
  | some w => .num (.whole w)
  | none => .num (.float (Binary64.ofNat n))

/-! ## Canonical trees -/

/-- Ascending names, each once. -/
def Sorted (members : List (String × Json)) : Prop :=
  members.Pairwise fun a b => a.1 < b.1

mutual

/-- Every object of the tree has its names in ascending order, each once. -/
def Canonical : Json → Prop
  | .arr items => CanonicalItems items
  | .obj members => Sorted members ∧ CanonicalMembers members
  | _ => True

def CanonicalItems : List Json → Prop
  | [] => True
  | j :: rest => Canonical j ∧ CanonicalItems rest

def CanonicalMembers : List (String × Json) → Prop
  | [] => True
  | (_, j) :: rest => Canonical j ∧ CanonicalMembers rest

end

theorem mem_insertMember {key : String} {value : Json} {members : List (String × Json)}
    {p : String × Json} (h : p ∈ insertMember key value members) :
    p = (key, value) ∨ p ∈ members := by
  induction members with
  | nil => simpa [insertMember] using h
  | cons head rest ih =>
    obtain ⟨k, v⟩ := head
    simp only [insertMember] at h
    split at h
    · simpa using h
    · split at h
      · rcases List.mem_cons.1 h with h | h
        · exact Or.inl h
        · exact Or.inr (List.mem_cons_of_mem _ h)
      · rcases List.mem_cons.1 h with h | h
        · exact Or.inr (by simp [h])
        · rcases ih h with h | h
          · exact Or.inl h
          · exact Or.inr (List.mem_cons_of_mem _ h)

/-- Inserting a member keeps the order. -/
theorem insertMember_sorted {key : String} {value : Json} {members : List (String × Json)}
    (h : Sorted members) : Sorted (insertMember key value members) := by
  induction members with
  | nil => simp [insertMember, Sorted]
  | cons head rest ih =>
    obtain ⟨k, v⟩ := head
    have hrest : Sorted rest := (List.pairwise_cons.1 h).2
    have hall : ∀ p ∈ rest, k < p.1 := (List.pairwise_cons.1 h).1
    simp only [insertMember]
    split
    · next hlt =>
      refine List.pairwise_cons.2 ⟨?_, h⟩
      intro p hp
      rcases List.mem_cons.1 hp with hp | hp
      · simpa [hp] using hlt
      · exact String.lt_trans hlt (hall p hp)
    · next hnlt =>
      split
      · next heq =>
        subst heq
        exact List.pairwise_cons.2 ⟨hall, hrest⟩
      · next hne =>
        refine List.pairwise_cons.2 ⟨?_, ih hrest⟩
        intro p hp
        rcases mem_insertMember hp with hp | hp
        · subst hp
          rcases Std.lt_trichotomy key k with hlt | heq | hgt
          · exact absurd hlt hnlt
          · exact absurd heq hne
          · exact hgt
        · exact hall p hp

end Json

end ClusterScript
