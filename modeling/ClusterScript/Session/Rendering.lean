import ClusterScript.Session.Basic
import ClusterScript.Script.Pivot

/-!
# Results as text

How results are shown: an instance by what it says of itself, a table as JSON
or YAML, any other value as `tostring` gives it, and nil not at all.

* `Session.render`: the lines for some results.
* `Session.present`: evaluates a chunk and prints what there is to see.
-/
namespace ClusterScript

open Script

variable [Library]

namespace Rendering

/-- What an instance says of itself. -/
def inspect (i : Instance) : Run String := do
  textResult (← callNamed callValue i "inspect" [])

/-- The text of one result; `shown` gives the text of values that are no tables. -/
def text (shown : Value → Run String) (format : Output.Format) (v : Value) : Run String := do
  match v with
  | .instance i => tryCatch (inspect i) fun
    | .overflowed => throw .overflowed
    | _ => shown v
  | .table _ => do
    let j ← Run.lift (pivot (← get).tables v)
    return Output.write format j
  | v => shown v

def texts (shown : Value → Run String) (format : Output.Format) : List Value → Run (List String)
  | [] => return []
  | .nil :: rest => texts shown format rest
  | v :: rest => do
    let first ← text shown format v
    let more ← texts shown format rest
    return first :: more

/-- The texts of results, through the function that the session has as `tostring`. -/
def run (format : Output.Format) (values : List Value) : Run (List String) := do
  let f ← Run.getIn Run.globals (.text "tostring")
  if f.isFunction then
    texts (fun v => do textResult (← callFromHost callValue f [v])) format values
  else Run.fault (.coercion (.notFunction f.typeName))

end Rendering

namespace Session

/-- `render`: the text of each result that is not nil. -/
def render (s : Session) (values : List Value) (format : Output.Format) :
    Except Fault (List String) × Session :=
  s.perform (Rendering.run format values)

/-- `describe`: the message of a fault; `place` stands before that of a text that does not parse. -/
def placedMessage (place : String) : Fault → String
  | .unparsable => place ++ Fault.nearEquals
  | f => f.message

def printText (s : Session) (text : String) : Session := (s.perform (Run.print text)).2

def printLine (s : Session) (line : String) : Session := s.printText (line ++ "\n")

def printLines (s : Session) (lines : List String) : Session := lines.foldl printLine s

/-- `run_chunk`: evaluates a chunk and prints its results or its fault; the results are remembered,
also those that could not be shown. False where the process has ended. -/
def present (s : Session) (c : Chunk) (format : Output.Format) (place : String) :
    Session × Bool :=
  let (result, s) := s.evaluate c
  match result with
  | .error .overflow => (s, false)
  | .error f => (s.printLine ("Error: " ++ placedMessage place f), true)
  | .ok values =>
    let (lines, s) := s.render values format
    match lines with
    | .error .overflow => (s, false)
    | .error f => ((s.printLine ("Error: " ++ f.message)).remember values, true)
    | .ok lines => ((s.printLines lines).remember values, true)

end Session

end ClusterScript
