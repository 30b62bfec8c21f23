import LineShell.Script.Builtin.Command
import LineShell.Script.Builtin.Directory
import LineShell.Script.Builtin.Output
import LineShell.Script.Builtin.Process
import LineShell.Script.Builtin.Variable
/-!
The single steps that the course of a script is made of: jumps, processes that are started, pipes, and the
builtins that run no other command.
-/

namespace LineShell.Script

/-- How a statement is evaluated. -/
structure Course where
  /-- Something asks for the status, so a failure is none for the script. -/
  isTested : Bool := false
  /-- The process ends with the statement, so a program may take its place. -/
  isLast : Bool := false

def callLimit : Nat := 1000

/-! ## Jumps -/

def jump (skip : Nat → Skip) (operands : List String) : Action Nat := do
  let count ← match operands with
    | [] => pure 1
    | operand :: _ => do
        let count ← operandNumber operand
        if count = 0 then fail s!"Illegal number: {operand}" else pure count
  let count := min count (← get).loops
  if 0 < count then modify fun shell => { shell with skip := skip count }
  return 0

def returnWith (operands : List String) : Action Nat := do
  match operands with
  | [] => do
      modify fun shell => { shell with skip := .function false }
      return (← get).status
  | operand :: _ => do
      let status ← operandNumber operand
      modify fun shell => { shell with skip := .function true }
      return status

def exitWith (operands : List String) : Action Nat := do
  if let operand :: _ := operands then
    let status ← operandNumber operand
    modify fun shell => { shell with saved := some status }
  throw .exiting

/-- At the end of a round of a loop, what is left out from there on: nothing, or the loops that are still
to be left. -/
def leaveRound : Action Skip := do
  let skip := (← get).skip
  match skip with
  | .breaking (loops + 2) => do
      modify fun shell => { shell with skip := .breaking (loops + 1) }
      return .breaking (loops + 1)
  | .continuing (loops + 2) => do
      modify fun shell => { shell with skip := .continuing (loops + 1) }
      return .breaking (loops + 1)
  | .breaking _ | .continuing _ => do
      modify fun shell => { shell with skip := .nothing }
      return skip
  | skip => return skip

def Skip.goesOn : Skip → Bool
  | nothing | continuing _ => true
  | _ => false

/-- Drops all that is being done, to go on with what the standard input holds from here on. -/
def startOver : Action Unit := do
  unwindRedirections stepLimit 0
  unwindSources stepLimit 0
  unwindHidden stepLimit 0
  let source := (← get).source
  let number := source.descriptor.getD 0
  if number ≠ 0 then Action.request fun id machine => ((), machine.close id number)
  modify fun shell =>
    let source := if number = 0
      then { source with descriptor := some 0, chars := [], ahead := [], insertions := [] }
      else { descriptor := some 0 }
    { shell with
      source, loops := 0, calls := 0, skip := .nothing, isTracing := false, command := none
      saved := none }

/-! ## Processes -/

def hasTraps : Action Bool := do
  return (← get).traps.any (·.2 ≠ "")

def closeSources : Action Unit := do
  let shell ← get
  for source in shell.source :: shell.outer do
    if let some descriptor := source.descriptor then
      if 0 < descriptor then Action.request fun id machine => ((), machine.close id descriptor)
  modify fun shell =>
    let source := shell.outer.getLast?.getD shell.source
    { shell with source := { source with descriptor := none }, outer := [] }

/-- Takes back the traps, which a copy of a process does not have. -/
def clearTraps : Action Unit := do
  let cleared := (← get).traps.filter (·.2 ≠ "")
  modify fun shell => { shell with traps := shell.traps.filter (·.2 = "") }
  for (signal, _) in cleared do arrangeSignal signal

/-- Has the process forget what only the process knows that it is a copy of. -/
def becomeCopy : Action Unit := do
  modify fun shell =>
    { shell with
      depth := shell.depth + 1, jobs := [], redirections := [], skip := .nothing }
  clearTraps
  if (← get).has "interactive" then arrangeTerminalSignals
  closeSources

/-- Keeps the process from being disturbed where it runs in the background: it gets no signals from a
terminal, and the first one of a job has nothing to read. -/
def becomeBackground (isFirst : Bool) : Action Unit := do
  let silent := [Kernel.Signal.interrupt, Kernel.Signal.quit]
  modify fun shell => { shell with deafTo := silent ++ shell.deafTo }
  Action.request fun id machine =>
    ((), machine.updateTask id fun task =>
      { task with
        ignored := silent ++ task.ignored.filter (!silent.contains ·)
        caught := task.caught.filter (!silent.contains ·) })
  if isFirst then
    let channel ← openFile "/dev/null" .read
    Action.request fun id machine => ((), machine.bind id 0 channel false)

/-- Starts a process of a job; the answer is its number. -/
def startStage (job : Nat) (isBackground : Bool) (stage : Action Empty) : Action Unit := do
  let isFirst := (((← get).job? job).map (·.stages.isEmpty)).getD true
  let id ← Action.fork do
    becomeCopy
    if isBackground then becomeBackground isFirst
    stage
  modify fun shell =>
    let shell := shell.updateJob job fun job => { job with stages := job.stages ++ [(id, none)] }
    { shell with backgroundId := if isBackground then some id else shell.backgroundId }

def readAll (fuel : Nat) (number : Nat) (pieces : List String) : Action String :=
  match fuel with
  | 0 => return String.join pieces.reverse
  | fuel + 1 => do
      Action.pause
      match ← readBlock number Kernel.Pipe.capacity with
      | .ok (byte :: bytes) => readAll fuel number (Octets.ofBytes (byte :: bytes) :: pieces)
      | _ => return String.join pieces.reverse

/-! ## Builtins -/

/-- The builtins that run no other command. -/
def plainBuiltin? (name : String) : Option (List String → Action Nat) :=
  match name with
  | ":" | "true" => some fun _ => return 0
  | "false" => some fun _ => return 1
  | "[" => some bracketTest
  | "alias" => some setAliases
  | "bg" | "fg" => some controlJob
  | "break" => some (jump .breaking)
  | "cd" | "chdir" => some changeDirectory
  | "command" => some describeOperand
  | "continue" => some (jump .continuing)
  | "echo" => some echo
  | "exit" => some exitWith
  | "export" => some exportVariables
  | "getopts" => some getOptions
  | "hash" => some trackCommands
  | "jobs" => some listJobs
  | "kill" => some sendOrList
  | "local" => some hideVariables
  | "printf" => some printFormat
  | "pwd" => some printDirectory
  | "read" => some readVariables
  | "readonly" => some protectVariables
  | "return" => some returnWith
  | "set" => some setAll
  | "shift" => some shiftArguments
  | "test" => some test
  | "times" => some showTimes
  | "trap" => some setTrap
  | "type" => some describeAll
  | "ulimit" => some limitUse
  | "umask" => some withhold
  | "unalias" => some dropAliases
  | "unset" => some unsetNames
  | "wait" => some wait
  | _ => none

def runBuiltin (name : String) (action : Action Nat) : Action (Except Interruption Unit) := do
  let before := (← get).command
  modify fun shell => { shell with command := some name }
  let result ← Action.attempt do
    let status ← action
    if ← flush then Action.setStatus status
    else
      complain s!"{name}: I/O error"
      Action.setStatus (status ||| 1)
  modify fun shell => { shell with command := before, output := [] }
  return result

/-! ## Commands -/

/-- Words that have been expanded, and those that have not. -/
structure Arguments where
  expanded : List String := []
  rest : List Word

/-- Expands words until there is one more. -/
def fillArguments (capture : Capture) (expanded : List String) : List Word → Action Arguments
  | [] => return { expanded, rest := [] }
  | word :: rest => do
      match ← expandWords capture word with
      | [] => fillArguments capture expanded rest
      | fields => return { expanded := expanded ++ fields, rest }

/-- The command that `command` is to run, if it is to run one, with the number of words before it; and
whether it is to be looked for in the standard directories. -/
def innerCommand (capture : Capture) (fuel index : Nat) (standard : Bool) (arguments : Arguments) :
    Action (Option Nat × Bool × Arguments) :=
  match fuel with
  | 0 => return (none, standard, arguments)
  | fuel + 1 => do
      let arguments ←
        if index < arguments.expanded.length then pure arguments
        else fillArguments capture arguments.expanded arguments.rest
      match (arguments.expanded[index]?).map String.toList with
      | none => return (none, standard, arguments)
      | some ['-', '-'] => do
          let arguments ←
            if index + 1 < arguments.expanded.length then pure arguments
            else fillArguments capture arguments.expanded arguments.rest
          let next := if index + 1 < arguments.expanded.length then some (index + 1) else none
          return (next, standard, arguments)
      | some ('-' :: letter :: letters) =>
          let before := (letter :: letters).takeWhile (· = 'p')
          let standard := standard || !before.isEmpty
          if before.length = (letter :: letters).length then
            innerCommand capture fuel (index + 1) standard arguments
          else return (none, standard, arguments)
      | some _ => return (some index, standard, arguments)

/-- What the first words of a command come to. -/
structure Resolved where
  command : Command := .builtin ""
  /-- The first builtin is a special one, if there is any. -/
  isSpecial : Option Bool := none
  skipsFunctions : Bool := false
  standard : Bool := false
  /-- The number of words before the command. -/
  start : Nat := 0
  arguments : Arguments

/-- Looks up the command of some words, behind any `command` before it. -/
def resolve (capture : Capture) (fuel : Nat) (resolved : Resolved) : Action Resolved :=
  match fuel with
  | 0 => return resolved
  | fuel + 1 => do
      let name := (resolved.arguments.expanded[resolved.start]?).getD ""
      let search : Search := { skipsFunctions := resolved.skipsFunctions, skipsFiles := true }
      let command ← findCommand search name
      match command with
      | .builtin builtin => do
          let isSpecial := some (resolved.isSpecial.getD (specialBuiltins.contains builtin))
          let resolved := { resolved with command, isSpecial }
          if builtin ≠ "command" then return resolved
          else
            let (next, standard, arguments) ←
              innerCommand capture stepLimit (resolved.start + 1) resolved.standard resolved.arguments
            let resolved := { resolved with standard, arguments }
            match next with
            | none => return resolved
            | some start => resolve capture fuel { resolved with start, skipsFunctions := true }
      | command => return { resolved with command }

/-- Expands the words that are left, of which assignments may be taken for what they are. -/
def expandRest (capture : Capture) (takesAssignments : Bool) (arguments : Arguments) :
    Action (List String) := do
  let fields ← arguments.rest.mapM fun word =>
    if takesAssignments && Parser.isAssignment word then do
      return [← expandText capture { tildes := true } word]
    else expandWords capture word
  return arguments.expanded ++ fields.flatten

/-- Sets variables for a command alone, or for good. -/
def assignAll (capture : Capture) (isHidden isExported : Bool) (assignments : List Word) :
    Action (List String) :=
  assignments.mapM fun word => do
    let text ← expandText capture { tildes := true } word
    if isHidden then hideVariable text true
    else
      let (name, value) := splitAssignment text
      storeVariable name value isExported
    return text

/-- Notes where the commands of a pipeline are found before they are started. -/
def trackFirst : Statement → Action Unit
  | .simple _ _ (word :: _) _ =>
      match Word.bareText? word with
      | some name => if isName name.toList then do let _ ← findCommand {} name else return
      | none => return
  | _ => return

def includedFile (name : String) : Action String := do
  if name.toList.contains '/' then return name
  else
    let search := (← get).searchPath
    let found ← Action.ask fun id machine =>
      (candidates search name).find? fun path =>
        match statAt id machine path with
        | .ok (.file _ _) | .ok .interpreter => true
        | _ => false
    match found with
    | some path => return path
    | none => fail s!"{name}: not found"

/-- Has a private number stand for a file from which a script is read. -/
def bindSource (channel : Nat) : Action Nat :=
  Action.request fun id machine =>
    let number := ((machine.task? id).map (·.freeNumber privateNumber)).getD privateNumber
    (number, machine.bind id number channel true)

/-- Opens a file to read a script from it; the answer is its private number. -/
def openSource (path : String) : Action Nat := do
  bindSource (← openFile path .read)

/-- Opens a file, if it can be opened, to read a script from it. -/
def openSource? (path : String) : Action (Option Nat) := do
  match ← tryFile path .read with
  | .ok channel => return some (← bindSource channel)
  | .error _ => return none

end LineShell.Script
