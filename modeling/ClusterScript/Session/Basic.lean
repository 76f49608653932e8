import ClusterScript.Script.Engine
import ClusterScript.Script.Evaluation

/-!
# Sessions

A session is the world that its scripts run in. Chunks are evaluated one
after the other; what a chunk changed stays, also when it failed.

* `Session.evaluate`: the results of a chunk.
* `Session.execute`: the results of a script file.
-/
namespace ClusterScript

open Script

structure Session where
  world : World
deriving Inhabited

/-- Why a script file has no results. -/
inductive ScriptFault
  | unreadable (path : String) (cause : FileFault)
  | failed (f : Fault)

def ScriptFault.message : ScriptFault → String
  | .unreadable path _ => s!"Failed to read {path}"
  | .failed f => f.message

namespace Session

variable [Library]

/-- `new`: a session on a cluster; the namespace is given as a script would set it. -/
def new (cluster : Cluster) (ns : String) (mode : NumberMode) (now : Timestamp)
    (files : FileTree) (environment : List (String × String)) : Session :=
  ⟨Engine.installed ⟨cluster, namespaceOf ns, mode, now, files, environment⟩⟩

/-- What a stopped action is for the host. -/
def faultOfHalt : Halt → Run Fault
  | .raised v => faultOf callValue v
  | .exhausted => return .script "stack overflow"
  | .overflowed => return .overflow

/-- `guard`: runs an action in the session's world. After an overflow the process is gone, and the
session with it. -/
def perform (s : Session) (act : Run α) : Except Fault α × Session :=
  let guarded : Run (Except Fault α) :=
    tryCatch (do return .ok (← act)) fun h => do return .error (← faultOfHalt h)
  match guarded.run s.world with
  | .ok result w => (result, ⟨w⟩)
  | .error _ w => (.error .overflow, ⟨w⟩)

/-- `eval`: the results of a chunk. -/
def evaluate (s : Session) (c : Chunk) : Except Fault (List Value) × Session :=
  s.perform (runChunk callValue c)

/-- The files that scripts can read. -/
def files (s : Session) : FileTree :=
  match s.world.host with
  | some h => h.files
  | none => ⟨[]⟩

/-- `exec_file`: the results of a script file. -/
def execute (s : Session) (path : String) : Except ScriptFault (List Value) × Session :=
  match s.files.readText path with
  | .error cause => (.error (.unreadable path cause), s)
  | .ok source =>
    let (result, s) := s.evaluate (.ofText source)
    (result.mapError .failed, s)

/-- The global that holds the last result. -/
def lastName : String := "_"

/-- `set_last`: keeps the first result that is not nil as the last one. -/
def remember (s : Session) (values : List Value) : Session :=
  match values.find? fun v => !v.isNil with
  | some v => (s.perform (Run.setGlobal lastName v)).2
  | none => s

/-- `namespace`: the current namespace, `*` for all of them. -/
def namespaceName (s : Session) : String :=
  (s.world.host.map (·.currentNamespace)).getD allNamespaces

/-- `prompt`: what the shell shows before each input. -/
def prompt (s : Session) : String := s!"kubelua (namespace=\"{s.namespaceName}\")> "

/-- Takes what was printed. -/
def takeOutput (s : Session) : String × Session :=
  (s.world.output, ⟨{ s.world with output := "" }⟩)

end Session

end ClusterScript
