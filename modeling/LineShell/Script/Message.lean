import LineShell.Script.Shell
import LineShell.Text.Octets
/-!
What a script writes: the output of its builtins, which is sent when they are done, and complaints.
-/

namespace LineShell.Script

open Kernel (Machine Answer)

namespace Shell

variable (shell : Shell)

def has (option : String) : Bool :=
  shell.options.contains option

end Shell

/-- The rounds in which bytes are written; each takes some of them. -/
def writeRounds (fuel descriptor : Nat) (bytes : Bytes) : Action Bool :=
  match fuel, bytes with
  | 0, _ => return false
  | _, [] => return true
  | fuel + 1, bytes => do
      let answer ← Action.await fun id machine =>
        match machine.write id descriptor bytes with
        | (.waiting, machine) => (none, machine)
        | (answer, machine) => (some answer, machine)
      match answer with
      | .done count =>
          if count = 0 then return false else writeRounds fuel descriptor (bytes.drop count)
      | .waiting => return false
      | .refused _ => do
          Action.pause
          return false

/-- Writes to a descriptor; the answer tells whether all bytes were taken. -/
def write (descriptor : Nat) (octets : String) : Action Bool :=
  let bytes := Octets.toBytes octets
  writeRounds (bytes.length + 1) descriptor bytes

def writeError (octets : String) : Action Unit := do
  let _ ← write 2 octets

/-- Keeps the output of a builtin until it is done. -/
def print (octets : String) : Action Unit :=
  modify fun shell => { shell with output := octets :: shell.output }

/-- Sends what builtins have written; the answer tells whether it was taken. -/
def flush : Action Bool := do
  match (← get).output with
  | [] => return true
  | pieces => do
      modify fun shell => { shell with output := [] }
      write 1 (String.join pieces.reverse)

/-- Complains on the error stream, naming the script, the line and the builtin at hand. -/
def complain (text : String) : Action Unit := do
  let shell ← get
  let command := (shell.command.map (· ++ ": ")).getD ""
  writeError s!"{shell.self}: {shell.line}: {command}{text}\n"

def fail {α : Type} (text : String) : Action α := do
  complain text
  let _ ← flush
  modify fun shell => { shell with status := 2 }
  throw .failed

/-- Why something cannot be opened, as scripts are told. -/
def openReason (missing : String) (error : IoError) : String :=
  if error = .system .noEntry || error = .system .notDirectory then missing else error.reason

def createRefusal (target : String) (error : IoError) : String :=
  "cannot create " ++ target ++ ": " ++ openReason "Directory nonexistent" error

def openRefusal (target : String) (error : IoError) : String :=
  "cannot open " ++ target ++ ": " ++ openReason "No such file" error

end LineShell.Script
