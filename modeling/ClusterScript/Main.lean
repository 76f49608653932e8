import ClusterScript.Cluster.Decoding
import ClusterScript.Shell.Program

/-!
# The command line

Reads the files that a run may need, prints what the run prints, and feeds
the shell line by line.
-/
namespace ClusterScript.CommandLine

open Library.Standard

/-- A file as a tree entry, if it can be read. -/
def entryOf (path : FilePath) (file : String) : IO (List (FilePath × FileNode)) :=
  try
    let content ← IO.FS.readBinFile file
    return [(path, .file content.data.toList)]
  catch _ => return []

/-- The files of a directory. -/
def entriesOf (directory : String) : IO (List (FilePath × FileNode)) := do
  let found ← (System.mkFilePath [directory]).readDir
  let entries ← found.toList.mapM fun e => entryOf [e.fileName] e.path.toString
  return entries.flatten

/-- The files of a run: the configuration, the kubeconfig and those of the current directory. -/
def gather (home : String) : IO FileTree := do
  let kubeconfig := (← IO.getEnv "KUBECONFIG").getD (home ++ "/.kube/config")
  let config := Text.join "/" (home :: Program.configPath)
  return ⟨(← entryOf Program.kubeconfigPath kubeconfig) ++
    (← entryOf Program.configPath config) ++ (← entriesOf ".")⟩

/-- Every variable with its value. -/
def environment : IO (List (String × String)) := do
  let entries ← entryOf [] "/proc/self/environ"
  return entries.flatMap fun (_, node) =>
    match node with
    | .directory => []
    | .file content =>
      (Text.splitOn (Char.ofNat 0) (Text.lenient content)).filterMap (Text.splitOnce "=")

/-- Makes the log, and takes the time from it. -/
def openLog (home : String) : IO Timestamp := do
  let directory := Text.join "/" (home :: Program.logDirectory)
  let file := Text.join "/" (home :: Program.logPath)
  try
    IO.FS.createDirAll directory
    IO.FS.withFile file .append fun h => h.putStrLn "started"
    let t := (← (System.mkFilePath [file]).metadata).modified
    return ⟨t.sec * 1000000000 + t.nsec.toNat⟩
  catch _ => return ⟨0⟩

/-- The next line of the input; without content at its end. -/
partial def nextLine (input : IO.FS.Stream) (start : List UInt8) : IO InputLine := do
  match (← input.read 1).data.toList with
  | [] => return ⟨start.reverse, false⟩
  | b :: _ =>
    if b = InputLine.feed then return ⟨start.reverse, true⟩ else nextLine input (b :: start)

/-- Prints what the shell printed. -/
def flush (output : IO.FS.Stream) (sh : Shell) : IO Shell := do
  let (text, session) := sh.session.takeOutput
  output.putStr text
  output.flush
  return { sh with session }

/-- Feeds the shell until it closes. -/
partial def converse (input output : IO.FS.Stream) (sh : Shell) : IO Shell := do
  let sh ← flush output sh
  if sh.isOpen then
    let line ← nextLine input []
    if line.ended || !line.content.isEmpty then converse input output (sh.step line)
    else flush output sh.finish
  else return sh

/-- A run with the words of the command line; returns its status. -/
def run (words : List String) : IO UInt32 := do
  let home := (← IO.getEnv "HOME").getD "."
  let files ← gather home
  let now ← openLog home
  let errors ← IO.getStderr
  match Program.launch ⟨words, files, ← environment, now, .client ⟨[], []⟩⟩ with
  | .ended o =>
    (← IO.getStdout).putStr o.output
    errors.putStr o.errors
    return UInt32.ofNat o.status
  | .waiting sh warnings files =>
    errors.putStr warnings
    let sh ← converse (← IO.getStdin) (← IO.getStdout) sh
    if sh.isAborted then
      let o := Program.aborted "" "" files
      errors.putStr o.errors
      return UInt32.ofNat o.status
    return 0

end ClusterScript.CommandLine

def main (words : List String) : IO UInt32 := ClusterScript.CommandLine.run words
