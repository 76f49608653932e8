import ClusterScript.Cluster.Kubeconfig
import ClusterScript.Shell.Arguments
import ClusterScript.Shell.Config
import ClusterScript.Shell.Interaction

/-!
# Running the program

A run sets up the log, reads the configuration and the kubeconfig, and then
evaluates what the command line gives, or opens a shell. What it prints, its
status and the files it leaves are its outcome.

* `Program.launch`: a run as far as it needs no input.
* `Program.run`: a whole run.
-/
namespace ClusterScript

/-- What a run is started with. -/
structure Invocation where
  words : List String
  /-- The home directory, which is the current one as well. -/
  files : FileTree
  environment : List (String × String)
  now : Timestamp
  cluster : Cluster

structure Outcome where
  status : Nat
  output : String
  errors : String
  files : FileTree

/-- Why a run cannot begin. -/
inductive LaunchFault
  | config (f : ConfigFault)
  | kubeconfig (f : KubeconfigFault)

def LaunchFault.message : LaunchFault → String
  | .config f => f.detail
  | .kubeconfig f => f.message

/-- A run that ended, or one that waits for input; `warnings` were printed as errors. -/
inductive Launch
  | ended (o : Outcome)
  | waiting (sh : Shell) (warnings : String) (files : FileTree)

namespace Program

variable [Library]

def dataDirectory : String := ".kubelua"

def configPath : FilePath := [dataDirectory, "config.json"]

def logDirectory : FilePath := [dataDirectory, "log"]

def logPath : FilePath := logDirectory ++ ["kubelua.log"]

def kubeconfigPath : FilePath := ["kubeconfig"]

/-- How messages name a path. -/
def shown (path : FilePath) : String := Text.join "/" ("~" :: path)

/-- `init_logging`: the files with the log, and a warning if there can be none. -/
def openLog (t : FileTree) : FileTree × String :=
  match t.makeDirectories [] logDirectory with
  | .error f => (t, "Warning: Could not create log directory: " ++ f.message ++ "\n")
  | .ok t =>
    match t.openForAppending logPath with
    | .error f => (t, "Warning: Could not create log file: " ++ f.message ++ "\n")
    | .ok t => (t, "")

/-- `connect`: the session of a run, and the context it is connected to. -/
def prepare (i : Invocation) (a : Arguments) (files : FileTree) :
    Except LaunchFault (Session × String) := do
  let config ← (Config.load files configPath (shown configPath)).mapError .config
  let kubeconfig ←
    (Kubeconfig.load files kubeconfigPath (shown kubeconfigPath)).mapError .kubeconfig
  let target ← (kubeconfig.target a.context).mapError .kubeconfig
  let ns := (a.namespaceName.or config.namespaceName).getD target.namespaceName
  let mode := a.numberMode.getD config.numberMode
  return (Session.new i.cluster ns mode i.now files i.environment, target.context)

/-- The results of what the command line gives; a chunk comes before a file. -/
def results (s : Session) (a : Arguments) :
    Except ScriptFault (List Script.Value) × Session :=
  match a.chunk, a.file with
  | some text, _ =>
    let (r, s) := s.evaluate (.ofText text)
    (r.mapError .failed, s)
  | none, some path => s.execute path
  | none, none => (.ok [], s)

/-- `run_batch`: prints the results of what the command line gives, and returns its failure. -/
def evaluate (s : Session) (a : Arguments) : Option ScriptFault × Session :=
  match results s a with
  | (.error f, s) => (some f, s)
  | (.ok values, s) =>
    match s.render values a.outputFormat with
    | (.error f, s) => (some (.failed f), s)
    | (.ok lines, s) => (none, s.printLines lines)

def errorLine (message : String) : String := "Error: " ++ message ++ "\n"

/-- A run that the overflow of its native stack ends, by the signal for it. -/
def aborted (output warnings : String) (files : FileTree) : Outcome :=
  ⟨134, output, warnings ++ "\nthread 'main' has overflowed its stack\n" ++
    "fatal runtime error: stack overflow\n", files⟩

/-- A run whose session exists. -/
def proceed (s : Session) (context : String) (a : Arguments) (warnings : String)
    (files : FileTree) : Launch :=
  if a.isBatch then
    let (failure, s) := evaluate s a
    let output := s.takeOutput.1
    match failure with
    | some (.failed .overflow) => .ended (aborted output warnings files)
    | some f => .ended ⟨1, output, warnings ++ errorLine f.message, files⟩
    | none => .ended ⟨0, output, warnings, files⟩
  else .waiting (.opened s a.outputFormat context) warnings files

/-- `run`: a run as far as it needs no input. -/
def launch (i : Invocation) : Launch :=
  match Arguments.parse i.words with
  | .error f =>
    let text := f.message ++ "\n"
    if f.status = 0 then .ended ⟨0, text, "", i.files⟩
    else .ended ⟨f.status, "", text, i.files⟩
  | .ok a =>
    let (files, warnings) := openLog i.files
    match prepare i a files with
    | .error f => .ended ⟨1, "", warnings ++ errorLine f.message, files⟩
    | .ok (s, context) => proceed s context a warnings files

/-- A run on the whole input. -/
def run (i : Invocation) (input : List UInt8) : Outcome :=
  match launch i with
  | .ended o => o
  | .waiting sh warnings files =>
    let sh := sh.run (InputLine.ofBytes input)
    let output := sh.session.takeOutput.1
    if sh.isAborted then aborted output warnings files else ⟨0, output, warnings, files⟩

end Program

end ClusterScript
