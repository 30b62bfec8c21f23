import LineShell.FileSystem.Canonical
import LineShell.FileSystem.OpenFile
import LineShell.Lookup
/-!
The system as the shell's process sees it: the files, the directory the process works in, what waits at
its input stream, and what has been written to its two other streams.
-/

namespace LineShell

structure System where
  files : FileSystem := {}
  workingDir : Location := []
  /-- What waits at the input stream, unless that is the file in which nothing is. -/
  stdin : Option Bytes := none
  stdout : Bytes := []
  stderr : Bytes := []
deriving DecidableEq, Repr

namespace System

variable (system : System)

def nullLocation : Location := ["dev", "null"]

/-- What the shell finds among the files because it has it open: its streams. -/
def streams : List (String × Node) :=
  [ ("0", if system.stdin.isNone then .link nullLocation.path else .device (.descriptor 0)),
    ("1", .device (.descriptor 1)),
    ("2", .device (.descriptor 2)) ]

def view : FileSystem :=
  { system.files with descriptors := system.streams }

def findCommand (search : String) (currentDir command : Path) : Option Path :=
  system.view.findCommand system.workingDir search currentDir command

/-- The place a path leads to, links followed, however long the path is. -/
def canonicalize (path : Path) : Except IoError Location :=
  system.view.canonicalize system.workingDir path

def directoryAt (path : Path) : Except IoError Location := do
  let location ← system.view.locate system.workingDir path
  if system.files.isDirectory location then return location
  else throw (.system .notDirectory)

/-- Opens a path for writing, to add to the file or to start it anew. -/
def openForWriting (path : Path) (append : Bool) : Except IoError (OpenFile × System) := do
  let (file, files) ← system.view.openForWriting system.workingDir path append
  return (file, { system with files := { files with descriptors := [] } })

def feedStdin (bytes : Bytes) : System :=
  { system with stdin := system.stdin.map (· ++ bytes) }

def writeStdout (bytes : Bytes) : System :=
  { system with stdout := system.stdout ++ bytes }

def writeStderr (bytes : Bytes) : System :=
  { system with stderr := system.stderr ++ bytes }

/-- Writes to an open file, which may stand for one of the streams. -/
def write (file : OpenFile) (bytes : Bytes) : Except IoError (OpenFile × System) :=
  match system.view.node? file.location with
  | some (.device (.descriptor 0)) => .ok (file, system.feedStdin bytes)
  | some (.device (.descriptor 1)) => .ok (file, system.writeStdout bytes)
  | some (.device (.descriptor 2)) => .ok (file, system.writeStderr bytes)
  | _ => do
      let (file, files) ← system.files.write file bytes
      return (file, { system with files })

end System

end LineShell
