/-!
# Reading bytes as text

A script string is a sequence of bytes. `decode` reads it as UTF-8 and says
where and how it is malformed: after how many good bytes, and how many bytes
form the bad sequence, none when the text breaks off inside a character.
-/
namespace ClusterScript.Text

/-- Where bytes stop being UTF-8. -/
structure Malformed where
  /-- The number of well-formed bytes before. -/
  index : Nat
  /-- The length of the bad sequence; `none` if more bytes could complete it. -/
  length : Option Nat
deriving DecidableEq, Repr

def Malformed.message (m : Malformed) : String :=
  match m.length with
  | some n => s!"invalid utf-8 sequence of {n} bytes from index {m.index}"
  | none => s!"incomplete utf-8 byte sequence from index {m.index}"

def isContinuation (b : UInt8) : Bool := 0x80 ≤ b && b < 0xC0

/-- Which second bytes may follow a leading byte: no overlong forms, no surrogates, nothing
beyond the last code point. -/
def secondOk (first second : UInt8) : Bool :=
  if first == 0xE0 then 0xA0 ≤ second && second < 0xC0
  else if first == 0xED then 0x80 ≤ second && second < 0xA0
  else if first == 0xF0 then 0x90 ≤ second && second < 0xC0
  else if first == 0xF4 then 0x80 ≤ second && second < 0x90
  else isContinuation second

/-- The number of bytes a leading byte announces. -/
def width (first : UInt8) : Nat :=
  if first < 0x80 then 1
  else if 0xC2 ≤ first && first < 0xE0 then 2
  else if 0xE0 ≤ first && first < 0xF0 then 3
  else if 0xF0 ≤ first && first < 0xF5 then 4
  else 0

def low (b : UInt8) : Nat := b.toNat % 64

/-- One character at the head of the bytes and its width, or the length of a bad sequence. -/
def decodeOne (first : UInt8) (rest : List UInt8) : Except (Option Nat) (Char × Nat) :=
  match width first, rest with
  | 1, _ => .ok (Char.ofNat first.toNat, 1)
  | 2, [] => .error none
  | 2, b :: _ =>
    if isContinuation b then .ok (Char.ofNat (first.toNat % 32 * 64 + low b), 2)
    else .error (some 1)
  | 3, [] => .error none
  | 3, b :: more =>
    if !secondOk first b then .error (some 1)
    else match more with
      | [] => .error none
      | c :: _ =>
        if isContinuation c then
          .ok (Char.ofNat (first.toNat % 16 * 4096 + low b * 64 + low c), 3)
        else .error (some 2)
  | 4, [] => .error none
  | 4, b :: more =>
    if !secondOk first b then .error (some 1)
    else match more with
      | [] => .error none
      | c :: more =>
        if !isContinuation c then .error (some 2)
        else match more with
          | [] => .error none
          | d :: _ =>
            if isContinuation d then
              .ok (Char.ofNat
                (first.toNat % 8 * 262144 + low b * 4096 + low c * 64 + low d), 4)
            else .error (some 3)
  | _, _ => .error (some 1)

/-- Reads at most `fuel` characters; `index` counts the bytes already read. -/
def decodeFrom : Nat → Nat → List UInt8 → Except Malformed (List Char)
  | _, _, [] => .ok []
  | 0, index, _ => .error ⟨index, none⟩
  | fuel + 1, index, b :: rest =>
    match decodeOne b rest with
    | .error n => .error ⟨index, n⟩
    | .ok (c, n) => (decodeFrom fuel (index + n) (rest.drop (n - 1))).map (c :: ·)

/-- The text of well-formed bytes. -/
def decode (bytes : List UInt8) : Except Malformed String :=
  (decodeFrom bytes.length 0 bytes).map String.ofList

/-- Reads at most `fuel` characters, each bad sequence as the replacement character. -/
def decodeLeniently : Nat → List UInt8 → List Char
  | _, [] => []
  | 0, _ => []
  | fuel + 1, b :: rest =>
    match decodeOne b rest with
    | .error none => ['\uFFFD']
    | .error (some n) => '\uFFFD' :: decodeLeniently fuel (rest.drop (n - 1))
    | .ok (c, n) => c :: decodeLeniently fuel (rest.drop (n - 1))

/-- The text of bytes that may be malformed. -/
def lenient (bytes : List UInt8) : String := String.ofList (decodeLeniently bytes.length bytes)

/-- The bytes of a text. -/
def encode (s : String) : List UInt8 := s.toUTF8.data.toList

end ClusterScript.Text
