import ClusterScript.Json.Reader

/-!
# Passing over JSON values

A typed reader passes over the values it does not know. It checks their
grammar only: numbers may be of any size, escapes may name half a surrogate
pair, and containers may nest as deep as they like.
-/
namespace ClusterScript.Reader

/-- The rest of a string, of at most `fuel` characters. -/
def skipString : Nat → Reader Unit
  | 0 => stop .endOfString
  | fuel + 1 => do
    match ← peek with
    | none => stop .endOfString
    | some '"' => advance
    | some '\\' =>
      advance
      match ← next with
      | none => stop .endOfString
      | some 'u' =>
        let _ ← fourHex
        skipString fuel
      | some c =>
        if ['"', '\\', '/', 'b', 'f', 'n', 'r', 't'].contains c then skipString fuel
        else stop .badEscape
    | some c =>
      if c.toNat < 0x20 then stop .controlCharacter
      else
        advance
        skipString fuel

/-- The digits of an exponent, the letter being the next character. -/
def skipExponent : Reader Unit := do
  advance
  let sign ← peek
  if sign = some '+' ∨ sign = some '-' then advance
  match ← next with
  | some c => if c.isDigit then discard digits else stop .badNumber
  | none => stop .badNumber

/-- What follows the digits before the point. -/
def skipFraction : Reader Unit := do
  match ← peek with
  | some '.' =>
    advance
    if (← digits).isEmpty then stopAhead .badNumber
    else
      let c ← peek
      if c = some 'e' ∨ c = some 'E' then skipExponent
  | some 'e' | some 'E' => skipExponent
  | _ => return ()

/-- A number after its sign. -/
def skipNumber : Reader Unit := do
  match ← next with
  | some '0' =>
    match ← peek with
    | some c => if c.isDigit then stopAhead .badNumber else skipFraction
    | none => return ()
  | some c =>
    if c.isDigit then
      discard digits
      skipFraction
    else stop .badNumber
  | none => stop .badNumber

mutual

/-- One value, in at most `fuel` steps. -/
def skip : Nat → Reader Unit
  | 0 => stop .tooDeep
  | fuel + 1 => do
    match ← peekPastSpace with
    | none => stopAhead .endOfValue
    | some 'n' =>
      advance
      word ['u', 'l', 'l']
    | some 't' =>
      advance
      word ['r', 'u', 'e']
    | some 'f' =>
      advance
      word ['a', 'l', 's', 'e']
    | some '"' =>
      advance
      skipString ((← get).rest.length + 1)
    | some '[' =>
      advance
      match ← peekPastSpace with
      | none => stopAhead .endOfList
      | some ']' => advance
      | some _ => skipElements fuel
    | some '\x7b' =>
      advance
      match ← peekPastSpace with
      | none => stopAhead .endOfObject
      | some '\x7d' => advance
      | some _ => skipMembers fuel
    | some '-' =>
      advance
      skipNumber
    | some c => if c.isDigit then skipNumber else stopAhead .noValue

/-- The elements up to the closing bracket; there is at least one. -/
def skipElements : Nat → Reader Unit
  | 0 => stop .tooDeep
  | fuel + 1 => do
    skip fuel
    match ← peekPastSpace with
    | none => stopAhead .endOfList
    | some ']' => advance
    | some ',' =>
      advance
      skipElements fuel
    | some _ => stopAhead .noListEnd

/-- The members up to the closing brace; there is at least one. -/
def skipMembers : Nat → Reader Unit
  | 0 => stop .tooDeep
  | fuel + 1 => do
    match ← peekPastSpace with
    | none => stopAhead .endOfObject
    | some '"' =>
      advance
      skipString ((← get).rest.length + 1)
    | some _ => stopAhead .keyNotText
    colon
    skip fuel
    match ← peekPastSpace with
    | none => stopAhead .endOfObject
    | some '\x7d' => advance
    | some ',' =>
      advance
      skipMembers fuel
    | some _ => stopAhead .noObjectEnd

end

/-- Passes over one value. -/
def skipValue : Reader Unit := do skip (← budget)

end ClusterScript.Reader
