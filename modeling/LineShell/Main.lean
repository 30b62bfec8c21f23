import LineShell.Console
import LineShell.FileSystem.Standard
import LineShell.Host.Native
/-!
The shell as a program: a session on the standard input, over a system of its own that starts out with
the standard tree.
-/

namespace LineShell

partial def readAll (stream : IO.FS.Stream) (soFar : ByteArray) : IO ByteArray := do
  let chunk ← stream.read 65536
  if chunk.isEmpty then return soFar else readAll stream (soFar ++ chunk)

/-- The variables of a session: those of the system, and the kind of terminal in use. -/
def startingBlock (terminal : Option String) : List String :=
  Variables.toBlock <|
    [("HOME", "/tmp"), ("PATH", "/bin:/usr/bin")] ++ (terminal.map fun name => ("TERM", name)).toList

end LineShell

open LineShell in
def main : IO UInt32 := do
  let input ← readAll (← IO.getStdin) .empty
  let system := { files := FileSystem.standard, workingDir := ["tmp"] }
  let block := startingBlock (← IO.getEnv "TERM")
  let (code, ended) := Console.run Host.native block input.toList { memory := (), system }
  (← IO.getStdout).write ⟨ended.system.stdout.toArray⟩
  (← IO.getStderr).write ⟨ended.system.stderr.toArray⟩
  return code.toUInt32
