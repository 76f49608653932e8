import ClusterScript.FileTree
import ClusterScript.Json.Printer
import ClusterScript.Json.Skipping
import ClusterScript.Script.World

/-!
# The configuration file

Three settings, all of which may be absent, as an object by name or as a list
in their order. Members of other names are passed over. The file is read from
left to right, so the first thing that does not fit is the one reported.

* `Config.parse`: the settings of a text.
* `Config.load`: the settings of a file, where a missing file has none.
-/
namespace ClusterScript

open Script (NumberMode)

/-- `Config`: the settings of a configuration file. -/
structure Config where
  namespaceName : Option String
  numberMode : NumberMode
  historySize : UInt64
deriving DecidableEq, Repr

/-- The settings of an empty file. -/
def Config.standard : Config := ⟨none, .native, 1000⟩

namespace Script.NumberMode

/-- The name of a mode in a configuration file. -/
def name : NumberMode → String
  | .native => "native"
  | .decimalString => "decimal_string"

def all : List NumberMode := [.native, .decimalString]

end Script.NumberMode

namespace Reader

/-- Stops at a value of another type than wanted. -/
def wrongType (wanted : String) : Reader α := do
  match ← peekPastSpace with
  | some '[' => mismatch (.type .sequence wanted)
  | some '\x7b' => mismatch (.type .map wanted)
  | _ =>
    let j ← json
    mismatch (.type (Found.ofJson j) wanted)

/-- A string where any value may stand. -/
def text (wanted : String) : Reader String := do
  match ← peekPastSpace with
  | some '"' => string
  | none => stopAhead .endOfValue
  | some _ => wrongType wanted

def optionalText : Reader (Option String) := do
  match ← peekPastSpace with
  | some 'n' =>
    advance
    word ['u', 'l', 'l']
    return none
  | _ => return some (← text "a string")

/-- A null. -/
def unit : Reader Unit := do
  match ← peekPastSpace with
  | some 'n' =>
    advance
    word ['u', 'l', 'l']
  | none => stopAhead .endOfValue
  | some _ => wrongType "unit"

/-- The name of a number mode. -/
def modeName : Reader NumberMode := do
  let s ← text "variant identifier"
  match NumberMode.all.find? fun m => m.name = s with
  | some m => return m
  | none => mismatch (.variant s (NumberMode.all.map (·.name)))

/-- A number mode: its name, or an object of its name with a null. -/
def numberMode : Reader NumberMode := do
  match ← peekPastSpace with
  | some '"' => modeName
  | some '\x7b' =>
    advance
    let m ← modeName
    colon
    unit
    match ← peekPastSpace with
    | some '\x7d' =>
      advance
      return m
    | some _ => stop .noValue
    | none => stop .endOfObject
  | some _ => stopAhead .noValue
  | none => stopAhead .endOfValue

/-- A count of 64 bits. -/
def size : Reader UInt64 := do
  match ← peekPastSpace with
  | none => stopAhead .endOfValue
  | some c =>
    if c = '-' || c.isDigit then
      match ← number with
      | .whole n =>
        if 0 ≤ n.val then return UInt64.ofNat n.val.toNat
        else mismatch (.value (.whole n.val) "usize")
      | .float x => mismatch (.type (.float x) "usize")
    else wrongType "usize"

end Reader

namespace Config

/-- Settings as far as they were read. -/
structure Draft where
  namespaceName : Option (Option String)
  numberMode : Option NumberMode
  historySize : Option UInt64

def Draft.finish (d : Draft) : Config :=
  ⟨d.namespaceName.join, d.numberMode.getD standard.numberMode,
    d.historySize.getD standard.historySize⟩

open Reader

inductive Field
  | namespaceName
  | numberMode
  | historySize
deriving DecidableEq, Repr

def Field.all : List Field := [.namespaceName, .numberMode, .historySize]

def Field.name : Field → String
  | .namespaceName => "namespace"
  | .numberMode => "number_mode"
  | .historySize => "history_size"

/-- Whether a setting was read before. -/
def Draft.has (d : Draft) : Field → Bool
  | .namespaceName => d.namespaceName.isSome
  | .numberMode => d.numberMode.isSome
  | .historySize => d.historySize.isSome

/-- Reads the value of a setting. -/
def readField (d : Draft) : Field → Reader Draft
  | .namespaceName => do return { d with namespaceName := some (← optionalText) }
  | .numberMode => do return { d with numberMode := some (← Reader.numberMode) }
  | .historySize => do return { d with historySize := some (← Reader.size) }

/-- Stops at the second member of a name; a closing brace behind it counts as seen. -/
def stopTwice (f : Field) : Reader α := do
  if (← peekPastSpace) = some '\x7d' then advance
  mismatch (.duplicate f.name)

/-- Reads members up to the closing brace. -/
def readMembers : Nat → Bool → Draft → Reader Draft
  | 0, _, _ => stop .tooDeep
  | fuel + 1, first, d => do
    if ← anotherMember first then
      let key ← string
      match Field.all.find? fun f => f.name = key with
      | none => do
        colon
        skipValue
        readMembers fuel false d
      | some f =>
        if d.has f then stopTwice f
        else do
          colon
          readMembers fuel false (← readField d f)
    else
      advance
      return d

/-- Reads elements as the settings in their order, as far as there are any. -/
def readElements : List Field → Bool → Draft → Reader Draft
  | [], _, d => return d
  | f :: rest, first, d => do
    if ← anotherElement first then readElements rest false (← readField d f) else return d

/-- The closing bracket of a list. -/
def closeList : Reader Unit := do
  match ← peekPastSpace with
  | some ']' => advance
  | some ',' =>
    advance
    if (← peekPastSpace) = some ']' then stopAhead .trailingComma
    else stopAhead .trailingCharacters
  | some _ => stopAhead .trailingCharacters
  | none => stopAhead .endOfList

def reader : Reader Config := do
  let blank : Draft := ⟨none, none, none⟩
  match ← peekPastSpace with
  | some '\x7b' =>
    advance
    return (← readMembers (← budget) true blank).finish
  | some '[' =>
    advance
    let d ← readElements Field.all true blank
    closeList
    return d.finish
  | none => stopAhead .endOfValue
  | some _ => wrongType "struct Config"

/-- The settings of a text. -/
def parse (text : String) : Except Stop Config :=
  Reader.run (do let c ← reader; finish; return c) text

/-- The settings as an object, in their order. -/
def json (c : Config) : String :=
  "\x7b\"namespace\":" ++ ((c.namespaceName.map Json.str).getD .null).compact ++
    ",\"number_mode\":" ++ (Json.str c.numberMode.name).compact ++
    ",\"history_size\":" ++ toString c.historySize ++ "\x7d"

end Config

/-- Why there are no settings. -/
inductive ConfigFault
  | unreadable (path : String) (cause : FileFault)
  /-- The cause, with line and column. -/
  | unparsable (path cause : String)
deriving DecidableEq, Repr

namespace ConfigFault

def message : ConfigFault → String
  | .unreadable path _ => s!"Failed to read config file: {path}"
  | .unparsable path _ => s!"Failed to parse config file: {path}"

/-- The message with its cause. -/
def detail (f : ConfigFault) : String :=
  match f with
  | .unreadable _ cause => f.message ++ ": " ++ cause.message
  | .unparsable _ cause => f.message ++ ": " ++ cause

end ConfigFault

/-- `load_from`: the settings of a file; `shown` is its name in messages. -/
def Config.load (t : FileTree) (path : FilePath) (shown : String) : Except ConfigFault Config :=
  if !t.has path then .ok .standard
  else
    match (t.contentAt path).bind FileTree.textOf with
    | .error cause => .error (.unreadable shown cause)
    | .ok text => (Config.parse text).mapError fun s => .unparsable shown (s.message text)

end ClusterScript
