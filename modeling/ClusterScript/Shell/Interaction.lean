import ClusterScript.Script.Notation
import ClusterScript.Session.Rendering

/-!
# The shell

The shell takes its input line by line. Lines are put together until they
form a whole text, which is a command or a chunk; then its answer is printed,
and the prompt for the next one. The shell closes at a command, at the end of
the input, and at a line that is no text. A chunk that overflows the native
stack ends it at once.

* `Shell.step`: what the shell does with a line.
* `Shell.run`: what it does with all of them.
-/
namespace ClusterScript

/-- A line of input; only the last one may lack its line feed. -/
structure InputLine where
  content : List UInt8
  ended : Bool
deriving DecidableEq, Repr

/-- The byte of a line feed. -/
def InputLine.feed : UInt8 := 10

def InputLine.ofBytes : List UInt8 → List InputLine
  | [] => []
  | b :: rest =>
    if b = feed then ⟨[], true⟩ :: ofBytes rest
    else match ofBytes rest with
      | [] => [⟨[b], false⟩]
      | l :: more => ⟨b :: l.content, l.ended⟩ :: more

/-- What a whole text asks the shell for. -/
inductive Command
  | nothing
  | quit
  | help
  | evaluate (text : String)
deriving DecidableEq, Repr

def Command.ofText (text : String) : Command :=
  let text := Text.trim text
  if text = "" then .nothing
  else if text = "quit" ∨ text = "exit" then .quit
  else if text = "help" then .help
  else .evaluate text

structure Shell where
  session : Session
  format : Output.Format
  /-- The lines of a text that is not whole yet. -/
  pending : String
  isOpen : Bool
  /-- The process has ended under the shell. -/
  isAborted : Bool

namespace Shell

/-- Examples with what they show, by topic. -/
def topics : List (String × List (String × String)) :=
  [("Queries:",
      [("pods()", "Pods in the session namespace"),
        ("pods(\"kube-system/core*\")", "Name glob, optionally namespaced"),
        ("pods(function(q) q.app:is(\"web\") end)", "Label selector block"),
        ("pods\x7b labels = \"tier=db\", fields = \"status.phase=Running\" \x7d",
          "Label and field selectors"),
        ("deployment(\"shop/web\")", "Single object by name")]),
    ("Results:",
      [("p[0]  p:first()  p:last()  p:any()", "Index, first, last or a random item"),
        ("p:table()  p:names()  p:to_yaml()", "Printing"),
        ("deployment(\"web\"):pods()", "Pods managed by an object"),
        ("pod(\"web-1\"):logs():grep(\"ERROR\")", "Pod logs")]),
    ("Session:",
      [("namespace(\"shop\")", "Show or switch namespace (\"*\" for all)"),
        ("_", "Last result"),
        ("quit", "Quit")])]

/-- `print_help`: the help, each topic with a blank line after it. -/
def helpLines : List String :=
  topics.flatMap fun (title, examples) =>
    title :: examples.map (fun (code, purpose) => "  " ++ code ++ " - " ++ purpose) ++ [""]

/-- `print_welcome`: what the shell greets with. -/
def welcomeLines (context : String) : List String :=
  ["kubelua v0.1.0 - Lua shell for Kubernetes",
    "Copyright (c) 2025 Nikolay Denev <ndenev@gmail.com>",
    "Connected to context " ++ context,
    "Type 'help' for examples, Ctrl+D to exit",
    ""]

/-- What the shell closes with at input that is no text. -/
def inputFault : String :=
  "Error: Io(Error \x7b kind: InvalidData, message: \"" ++ FileFault.notText.message ++ "\" \x7d)"

def farewell : String := "Goodbye!"

variable [Library]

/-- A shell before its first input. -/
def opened (s : Session) (format : Output.Format) (context : String) : Shell :=
  let s := s.printLines (welcomeLines context)
  ⟨s.printText s.prompt, format, "", true, false⟩

/-- Prints a last line. -/
def close (sh : Shell) (line : String) : Shell :=
  { sh with session := sh.session.printLine line, isOpen := false }

/-- Goes on with a session to the next input. -/
def ask (sh : Shell) (s : Session) : Shell :=
  { sh with session := s.printText s.prompt, pending := "" }

def obey (sh : Shell) : Command → Shell
  | .nothing => sh.ask sh.session
  | .quit => sh.close farewell
  | .help => sh.ask (sh.session.printLines helpLines)
  | .evaluate text =>
    match sh.session.present (.ofText text) sh.format "" with
    | (s, true) => sh.ask s
    | (s, false) => { sh with session := s, isOpen := false, isAborted := true }

/-- A text without a carriage return at its end, and what to put there if more lines follow. -/
def splitEnd (text : String) : String × String :=
  match text.toList.reverse with
  | '\r' :: rest => (String.ofList rest.reverse, "\r\n")
  | _ => (text, "\n")

/-- Takes a text with the one before it. -/
def read (sh : Shell) (text : String) (ended : Bool) : Shell :=
  let (text, lineEnd) :=
    if ended then splitEnd (sh.pending ++ text) else (sh.pending ++ text, "")
  if Script.isUnfinished text then { sh with pending := text ++ lineEnd }
  else sh.obey (.ofText text)

/-- Takes a line; a closed shell takes none. -/
def step (sh : Shell) (line : InputLine) : Shell :=
  if sh.isOpen then
    match Text.decode line.content with
    | .error _ => sh.close inputFault
    | .ok text => sh.read text line.ended
  else sh

/-- Closes the shell at the end of the input; an unfinished text is dropped. -/
def finish (sh : Shell) : Shell := if sh.isOpen then sh.close farewell else sh

/-- `run_repl`: a shell on its whole input. -/
def run (sh : Shell) (lines : List InputLine) : Shell := (lines.foldl step sh).finish

end Shell

end ClusterScript
