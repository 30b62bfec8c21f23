import LineShell.Command
import LineShell.Host.Basic
import LineShell.Script.Run
/-!
The host with the system behind it: it changes the directory of the process, and runs the programs that
the files hold. A program is a script or the interpreter of scripts itself; it runs as a process, and the
processes that it starts run beside it.
-/

namespace LineShell

namespace Invocation

open Kernel (Machine Channel Task Schedule)

variable (invocation : Invocation)

def texts : List String :=
  invocation.program.text :: invocation.environment.currentDir.text ::
    (invocation.arguments ++
      invocation.environment.variables.flatMap fun entry => [entry.1, entry.2])

def isPassable (text : String) : Bool :=
  !text.toList.contains '\x00'

def depthLimit : Nat := Nat.pow 2 32

/-- How many turns processes get, and how many those get that outlive the program. -/
def turnLimit : Nat := Nat.pow 2 40
def leftoverLimit : Nat := Nat.pow 2 16

/-- The number of the process that starts programs, and that of the program. -/
def hostId : Nat := 4241
def programId : Nat := hostId + 1

def topId : Nat := 1

def inputPipe : Nat := 0

def inputChannel (system : System) : Channel :=
  if system.stdin.isNone then .file System.nullLocation 0 .read else .source inputPipe

def outputChannel (system : System) : Channel :=
  match invocation.output with
  | none => .output
  | some file =>
      match system.view.node? file.location with
      | some (.device (.descriptor 0)) => .sink inputPipe
      | some (.device (.descriptor 1)) => .output
      | some (.device (.descriptor 2)) => .errors
      | _ => .file file.location file.offset (if file.append then .extend else .update)

/-- The system with the process that starts a program, and the program about to start in a directory.
Where its output goes to a file, that takes its errors as well. -/
def machine (system : System) (workingDir : Location) : Machine :=
  let errors := if invocation.output.isNone then 2 else 1
  let host : Task :=
    { parent := topId
      descriptors := [{ number := 0, channel := 0 }, { number := 1, channel := 1 }]
      workingDir := system.workingDir }
  let program : Task :=
    { parent := hostId
      descriptors :=
        [{ number := 0, channel := 0 }, { number := 1, channel := 1 },
          { number := 2, channel := errors }]
      workingDir }
  { files := system.files
    channels := #[inputChannel system, invocation.outputChannel system, .errors]
    pipes := #[Kernel.Pipe.push {} (system.stdin.getD [])]
    tasks := [(programId, program), (hostId, host)]
    nextId := programId + 1 }

def systemAfter (system : System) (machine : Machine) : System :=
  { system with
    files := machine.files
    stdin := system.stdin.map fun _ => (machine.pipes[inputPipe]?.map (·.content)).getD []
    stdout := system.stdout ++ machine.output.reverse.flatten
    stderr := system.stderr ++ machine.errors.reverse.flatten }

def statusOf (machine : Machine) : ExitCode :=
  match (machine.task? programId).bind (·.fate) with
  | some (.exited status) => status
  | _ => Outcome.failureStatus

/-- Runs a program to its end, and what it leaves behind up to where that has nothing to do. -/
def run (system : System) : Except IoError (ExitCode × System) := do
  if !invocation.texts.all isPassable then throw .nulInArgument
  let machine := invocation.machine system (← system.directoryAt invocation.environment.currentDir)
  let block := (Variables.toBlock invocation.environment.variables).map Octets.ofText
  let start : Program.Start :=
    { self := Octets.ofText invocation.program.text
      operands := invocation.arguments.map Octets.ofText }
  match (Script.sceneOf programId machine).find (Variables.textOf? block "PATH") start with
  | .error errno => throw (.system errno)
  | .ok start =>
      let program := .ready (Script.interpret depthLimit start block programId)
      let schedule : Schedule := { machine, programs := [(programId, program)] }
      let ended := schedule.run turnLimit (!·.isAlive programId) 0
      let left := ended.run leftoverLimit (fun _ => false) 0
      return (statusOf ended.machine, systemAfter system left.machine)

end Invocation

namespace Host

def native : Host Unit where
  changeDir dir world :=
    match world.system.directoryAt dir with
    | .error error => (.error error, world)
    | .ok workingDir => (.ok (), { world with system := { world.system with workingDir } })
  run invocation world :=
    match invocation.run world.system with
    | .error error => (.error error, world)
    | .ok (status, system) => (.ok status, { world with system })

end Host

end LineShell
