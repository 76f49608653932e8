import ClusterScript.Text.Split
import ClusterScript.Text.Utf8

/-!
# The files below the current directory

A tree of files and directories, each under the parts of its path. A path is
followed part by part, so that every part but the last has to be a directory;
points and doubled slashes in it count for nothing.

* `FileTree.readBytes`: the content of the file at a path.
* `FileTree.makeDirectories`: a directory with all that it lies in.
-/
namespace ClusterScript

/-- Why a path cannot be used as it was meant to be. -/
inductive FileFault
  | missing
  | present
  | notDirectory
  | isDirectory
  | nameTooLong
  | containsNul
  | notText
deriving DecidableEq, Repr

def FileFault.message : FileFault → String
  | .missing => "No such file or directory (os error 2)"
  | .present => "File exists (os error 17)"
  | .notDirectory => "Not a directory (os error 20)"
  | .isDirectory => "Is a directory (os error 21)"
  | .nameTooLong => "File name too long (os error 36)"
  | .containsNul => "file name contained an unexpected NUL byte"
  | .notText => "stream did not contain valid UTF-8"

/-- The parts of a path from the current directory on. -/
abbrev FilePath := List String

/-- What is at a path. -/
inductive FileNode
  | directory
  | file (content : List UInt8)
deriving DecidableEq, Repr

structure FileTree where
  entries : List (FilePath × FileNode)
deriving Inhabited

namespace FileTree

/-- What is at a path; what lies below it makes it a directory. -/
def node? (t : FileTree) (path : FilePath) : Option FileNode :=
  match t.entries.lookup path with
  | some n => some n
  | none =>
    if path = [] ∨ t.entries.any (fun e => path.isPrefixOf e.1) then some .directory else none

/-- Whether there is a file or a directory at a path. -/
def has (t : FileTree) (path : FilePath) : Bool := (t.node? path).isSome

/-- Follows the parts of a path; those behind `reached` are still to be followed. -/
def follow (t : FileTree) : FilePath → List String → Except FileFault FilePath
  | reached, [] => .ok reached
  | reached, p :: rest =>
    if 255 < p.utf8ByteSize then .error .nameTooLong
    else if p = ".." then
      if reached = [] then if rest = [] then .error .isDirectory else .error .missing
      else t.follow reached.dropLast rest
    else
      let next := reached ++ [p]
      match t.node? next with
      | none => .error .missing
      | some (.file _) => if rest = [] then .ok next else .error .notDirectory
      | some .directory => t.follow next rest

/-- Whether a path can only be that of a directory. -/
def asksForDirectory (path : String) : Bool :=
  match (Text.splitOn '/' path).getLast? with
  | some "" | some "." => true
  | _ => false

/-- The parts of a path without empty ones and points. -/
def partsOf (path : String) : List String :=
  (Text.splitOn '/' path).filter fun p => p ≠ "" && p ≠ "."

/-- The path that a text names; there is nothing outside of the tree. -/
def resolve (t : FileTree) (path : String) : Except FileFault FilePath :=
  if path.toList.contains (Char.ofNat 0) then .error .containsNul
  else if path = "" then .error .missing
  else if 4095 < path.utf8ByteSize then .error .nameTooLong
  else if Text.startsWith "/" path ∧ partsOf path ≠ [] then .error .missing
  else t.follow [] (partsOf path)

/-- The content of the file at a path. -/
def contentAt (t : FileTree) (path : FilePath) : Except FileFault (List UInt8) :=
  match t.node? path with
  | some (.file content) => .ok content
  | some .directory => .error .isDirectory
  | none => .error .missing

/-- The content of the file that a text names. -/
def readBytes (t : FileTree) (path : String) : Except FileFault (List UInt8) := do
  let content ← t.contentAt (← t.resolve path)
  if asksForDirectory path then throw .notDirectory else return content

def textOf (content : List UInt8) : Except FileFault String :=
  (Text.decode content).mapError fun _ => .notText

/-- The text of the file that a text names. -/
def readText (t : FileTree) (path : String) : Except FileFault String := do
  textOf (← t.readBytes path)

/-- Puts a file or a directory at a path. -/
def put (t : FileTree) (path : FilePath) (n : FileNode) : FileTree :=
  ⟨(path, n) :: t.entries.filter fun e => e.1 ≠ path⟩

/-- Makes the directories of a path that are not there yet. -/
def makeDirectories (t : FileTree) : FilePath → List String → Except FileFault FileTree
  | _, [] => .ok t
  | reached, p :: rest =>
    let next := reached ++ [p]
    match t.node? next with
    | some (.file _) => .error (if rest = [] then .present else .notDirectory)
    | some .directory => t.makeDirectories next rest
    | none => (t.put next .directory).makeDirectories next rest

/-- Makes a file to append to, unless there is one. -/
def openForAppending (t : FileTree) (path : FilePath) : Except FileFault FileTree :=
  match t.node? path with
  | some .directory => .error .isDirectory
  | some (.file _) => .ok t
  | none => .ok (t.put path (.file []))

end FileTree

end ClusterScript
