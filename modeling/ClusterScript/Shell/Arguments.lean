import ClusterScript.Output.Summary
import ClusterScript.Script.World

/-!
# The words of a command line

Words are options with a value, flags, or values of the option before them.
The value of an option is looked at when the next option comes or the words
end, so a word that is nothing at all is reported before a bad value.

* `Arguments.parse`: what the words ask for.
-/
namespace ClusterScript

open Script (NumberMode)

/-- Options that take a value. -/
inductive Setting
  | context
  | namespaceName
  | chunk
  | file
  | numberMode
  | format
deriving DecidableEq, Repr

/-- Options that stand alone. -/
inductive Flag
  | verbose
  | help
  | version
deriving DecidableEq, Repr

inductive CommandOption
  | setting (s : Setting)
  | flag (f : Flag)
deriving DecidableEq, Repr

/-- How an option is written, and what the help says of it. -/
structure Spelling where
  option : CommandOption
  letter : Option Char
  name : String
  /-- What the value is called. -/
  value : Option String
  purpose : String

def Spelling.all : List Spelling :=
  [⟨.setting .context, some 'c', "context", some "CONTEXT",
      "Kubernetes context to use (defaults to the kubeconfig current context)"⟩,
    ⟨.setting .namespaceName, some 'n', "namespace", some "NAMESPACE",
      "Initial namespace; \"*\" selects all namespaces"⟩,
    ⟨.setting .chunk, some 'e', "eval", some "CHUNK", "Evaluate a Lua chunk and exit"⟩,
    ⟨.setting .file, some 'f', "file", some "FILE", "Run a Lua script and exit"⟩,
    ⟨.setting .numberMode, none, "number-mode", some "NUMBER_MODE",
      "How numbers in resource objects are handed to scripts " ++
        "[possible values: native, decimal-string]"⟩,
    ⟨.setting .format, some 'o', "output", some "OUTPUT",
      "Format for printing plain Lua tables [default: json] [possible values: json, yaml]"⟩,
    ⟨.flag .verbose, some 'v', "verbose", none, "Enable verbose logging"⟩,
    ⟨.flag .help, some 'h', "help", none, "Print help"⟩,
    ⟨.flag .version, some 'V', "version", none, "Print version"⟩]

namespace CommandOption

def ofLetter? (c : Char) : Option CommandOption :=
  (Spelling.all.find? fun s => s.letter = some c).map (·.option)

def ofName? (name : String) : Option CommandOption :=
  (Spelling.all.find? fun s => s.name = name).map (·.option)

end CommandOption

/-- `Args`: what a command line asks for. -/
structure Arguments where
  context : Option String
  namespaceName : Option String
  chunk : Option String
  file : Option String
  numberMode : Option NumberMode
  format : Option Output.Format
  verbose : Bool
deriving DecidableEq, Repr

/-- Why a command line asks for no run. -/
inductive ArgumentFault
  | help
  | version
  | unknown (word : String)
  /-- A value that is missing or not allowed. -/
  | badValue (s : Setting)
  | repeated (o : CommandOption)
  /-- A value for an option that takes none. -/
  | needlessValue (f : Flag)
deriving DecidableEq, Repr

namespace Arguments

/-- The arguments of no words. -/
def empty : Arguments := ⟨none, none, none, none, none, none, false⟩

/-- `is_batch`: whether something is to be run instead of the shell. -/
def isBatch (a : Arguments) : Bool := a.chunk.isSome || a.file.isSome

/-- The format of results, JSON unless one is given. -/
def outputFormat (a : Arguments) : Output.Format := a.format.getD .json

def has (a : Arguments) : Setting → Bool
  | .context => a.context.isSome
  | .namespaceName => a.namespaceName.isSome
  | .chunk => a.chunk.isSome
  | .file => a.file.isSome
  | .numberMode => a.numberMode.isSome
  | .format => a.format.isSome

def modeOf? : String → Option NumberMode
  | "native" => some .native
  | "decimal-string" => some .decimalString
  | _ => none

def formatOf? : String → Option Output.Format
  | "json" => some .json
  | "yaml" => some .yaml
  | _ => none

/-- The arguments with the value of an option, if the option may have it. -/
def withValue? (a : Arguments) (v : String) : Setting → Option Arguments
  | .context => some { a with context := some v }
  | .namespaceName => some { a with namespaceName := some v }
  | .chunk => some { a with chunk := some v }
  | .file => if v = "" then none else some { a with file := some v }
  | .numberMode => (modeOf? v).map fun m => { a with numberMode := some m }
  | .format => (formatOf? v).map fun f => { a with format := some f }

/-- Gives an option its value; it may have only one. -/
def set (a : Arguments) (s : Setting) (v : String) : Except ArgumentFault Arguments :=
  if a.has s then .error (.repeated (.setting s))
  else match a.withValue? v s with
    | some a => .ok a
    | none => .error (.badValue s)

def raise (a : Arguments) : Flag → Except ArgumentFault Arguments
  | .verbose =>
    if a.verbose then .error (.repeated (.flag .verbose)) else .ok { a with verbose := true }
  | .help => .error .help
  | .version => .error .version

/-- What was read: the arguments, and the option whose value is yet to be looked at. -/
structure Reading where
  arguments : Arguments
  waiting : Option (Setting × Option String)

namespace Reading

/-- The arguments with the option that waits. -/
def settle (r : Reading) : Except ArgumentFault Arguments :=
  match r.waiting with
  | none => .ok r.arguments
  | some (s, none) => .error (.badValue s)
  | some (s, some v) => r.arguments.set s v

/-- An option with a value in the same word. -/
def attach (r : Reading) (s : Setting) (v : String) : Except ArgumentFault Reading := do
  return ⟨← (← r.settle).set s v, none⟩

/-- An option whose value is the next word. -/
def await (r : Reading) (s : Setting) : Except ArgumentFault Reading := do
  return ⟨← r.settle, some (s, none)⟩

def raise (r : Reading) (f : Flag) : Except ArgumentFault Reading := do
  return ⟨← (← r.settle).raise f, none⟩

/-- A word of letters: flags, and at its end an option with or without its value. -/
def letters (r : Reading) : List Char → Except ArgumentFault Reading
  | [] => .ok r
  | c :: rest =>
    match CommandOption.ofLetter? c with
    | none => .error (.unknown (String.ofList ['-', c]))
    | some (.flag f) => do letters (← r.raise f) rest
    | some (.setting s) =>
      match rest with
      | [] => r.await s
      | '=' :: v => r.attach s (String.ofList v)
      | v => r.attach s (String.ofList v)

/-- An option by its name, perhaps with a value. -/
def named (r : Reading) (name : String) (v : Option String) : Except ArgumentFault Reading :=
  match CommandOption.ofName? name, v with
  | none, _ => .error (.unknown ("--" ++ name))
  | some (.flag f), none => r.raise f
  | some (.flag f), some _ => .error (.needlessValue f)
  | some (.setting s), none => r.await s
  | some (.setting s), some v => r.attach s v

/-- A word that is no option. -/
def plain (r : Reading) (w : String) : Except ArgumentFault Reading :=
  match r.waiting with
  | some (s, none) => .ok { r with waiting := some (s, some w) }
  | _ => .error (.unknown w)

def word (r : Reading) (w : String) : Except ArgumentFault Reading :=
  match w.toList with
  | '-' :: '-' :: cs =>
    match Text.splitOnce "=" (String.ofList cs) with
    | some (name, v) => r.named name (some v)
    | none => r.named (String.ofList cs) none
  | '-' :: c :: cs => r.letters (c :: cs)
  | _ => r.plain w

/-- Reads words up to their end, or up to `--`, which nothing may follow. -/
def words (r : Reading) : List String → Except ArgumentFault Arguments
  | [] => r.settle
  | w :: rest => do
    if w = "--" then
      match rest with
      | [] => r.settle
      | extra :: _ => .error (.unknown extra)
    else words (← r.word w) rest

end Reading

def parse (words : List String) : Except ArgumentFault Arguments :=
  Reading.words ⟨empty, none⟩ words

end Arguments

namespace Spelling

def text (s : Spelling) : String :=
  (match s.letter with
    | some c => s!"  -{c}, "
    | none => "      ") ++ "--" ++ s.name ++
  match s.value with
  | some v => s!" <{v}>"
  | none => ""

/-- The widest spelling and two blanks. -/
def column : Nat := ((all.map fun s => s.text.length).max?.getD 0) + 2

def line (s : Spelling) : String :=
  s.text ++ String.ofList (List.replicate (column - s.text.length) ' ') ++ s.purpose

end Spelling

namespace ArgumentFault

/-- The exit status: asking for help or the version is no failure. -/
def status : ArgumentFault → Nat
  | .help | .version => 0
  | _ => 2

def helpText : String :=
  Text.join "\n" (["Script Kubernetes resources from a Lua shell", "",
    "Usage: kubelua [OPTIONS]", "", "Options:"] ++ Spelling.all.map Spelling.line)

def nameOf (o : CommandOption) : String :=
  ((Spelling.all.find? fun s => s.option = o).map fun s => "--" ++ s.name).getD ""

def message : ArgumentFault → String
  | .help => helpText
  | .version => "kubelua 0.1.0"
  | .unknown word => s!"error: unexpected argument {word}"
  | .badValue s => "error: invalid value for " ++ nameOf (.setting s)
  | .repeated o => s!"error: {nameOf o} cannot be used multiple times"
  | .needlessValue f => "error: unexpected value for " ++ nameOf (.flag f)

end ArgumentFault

end ClusterScript
