import LineShell.FileSystem.Walk
import LineShell.Program.Header
/-!
What comes of asking the system to run a file: a script hands over to the program that its header
names, which may be a script again, until the interpreter that needs no other is found.
-/

namespace LineShell.Program

/-- The words that a program is started with. -/
structure Start where
  self : String
  operands : List String
deriving DecidableEq, Repr

/-- Where programs are looked up. -/
structure Scene where
  files : FileSystem
  workingDir : Location
  written : List Location
deriving DecidableEq, Repr

namespace Scene

variable (scene : Scene)

/-- The file at a path, ready to be run. The empty path leads to the working directory. -/
def openProgram (path : Path) : Except Errno Node := do
  let location ←
    if path.text = "" then pure scene.workingDir
    else match scene.files.locate scene.workingDir path with
      | .ok location => pure location
      | .error (.system errno) => throw errno
      | .error _ => throw .noEntry
  match scene.files.node? location with
  | none => throw .noEntry
  | some node =>
      if !node.isExecutable then throw .accessDenied
      else if scene.written.contains location then throw .textBusy
      else return node

def scriptLimit : Nat := 5

/-- Goes from a file to the program that reads it, with a budget of further scripts. Each script hands
over its own path behind the operand of its header. -/
def handOver (budget : Nat) (path : String) (node : Node) (start : Start) : Except Errno Start :=
  match node with
  | .interpreter => .ok start
  | .file _ bytes =>
      match Header.ofBytes? bytes with
      | none => .error .execFormat
      | some header =>
          let reader := Octets.ofBytes header.interpreter
          match scene.openProgram (Octets.toPath reader), budget with
          | .error errno, _ => .error errno
          | .ok _, 0 => .error .tooManyLinks
          | .ok node, budget + 1 =>
              let operand := (header.operand.map Octets.ofBytes).toList
              handOver budget reader node ⟨reader, operand ++ path :: start.operands⟩
  | _ => .error .accessDenied

def load (path : String) (start : Start) : Except Errno Start := do
  let node ← scene.openProgram (Octets.toPath path)
  scene.handOver scriptLimit path node start

end Scene

end LineShell.Program
