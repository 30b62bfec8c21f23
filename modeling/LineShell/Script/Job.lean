import LineShell.Script.Message
/-!
Jobs: the commands that run as processes of their own, and what a script gets to know of their ends.
-/

namespace LineShell.Script

open Kernel (Fate Signal.description)

namespace Job

variable (job : Job)

/-- The number of the last process, by which a job goes. -/
def processId? : Option Nat :=
  job.stages.getLast?.map (·.1)

def statusOf : Fate → Nat
  | .exited status => status
  | .killed signal => 128 + signal

def status : Nat :=
  match job.stages.getLast? with
  | some (_, some fate) => statusOf fate
  | _ => 0

def noteFate (id : Nat) (fate : Fate) : Job :=
  let stages := job.stages.map fun (stage : Nat × Option Fate) =>
    if stage.1 = id then (id, some fate) else stage
  let noted := { job with stages }
  { noted with hasChanged := job.hasChanged || noted.isDone }

/-- How far a job has got, in one word or a few. -/
def condition : String :=
  if !job.isDone then "Running"
  else match job.stages.getLast? with
    | some (_, some (.exited 0)) => "Done"
    | some (_, some (.exited status)) => s!"Done({status})"
    | some (_, some (.killed signal)) => Signal.description signal
    | _ => ""

end Job

namespace Shell

variable (shell : Shell)

def job? (number : Nat) : Option Job :=
  shell.jobs.find? (·.number = number)

def freeJob (number : Nat) : Shell :=
  { shell with jobs := shell.jobs.filter (·.number ≠ number) }

/-- The first number that no job has, or only one that is done and has been waited for. -/
def freeJobNumber : Nat :=
  let isFree (number : Nat) : Bool :=
    (shell.job? number).all fun job => job.isDone && job.isWaitedFor
  ((List.range (shell.jobs.length + 1)).map (· + 1)).find? isFree
    |>.getD (shell.jobs.length + 1)

/-- Puts a job without processes before the others. -/
def startJob : Nat × Shell :=
  let number := shell.freeJobNumber
  let shell := shell.freeJob number
  (number, { shell with jobs := { number, stages := [] } :: shell.jobs })

def updateJob (number : Nat) (change : Job → Job) : Shell :=
  { shell with jobs := shell.jobs.map fun job => if job.number = number then change job else job }

/-- The job that a process belongs to and that is not done. -/
def jobOf? (id : Nat) : Option Job :=
  shell.jobs.find? fun job => !job.isDone && job.stages.any (·.1 = id)

end Shell

/-! ## Waiting -/

/-- How long to wait for the end of a process. -/
inductive Patience
  | none
  | patient
  | alert
  /-- Like that, but for the first process only. -/
  | alertOnce
deriving DecidableEq, Repr

/-- What comes of waiting for the end of a process. -/
inductive Reaped
  | nothing
  | interrupted
  | ended (id : Nat) (fate : Fate)

def reap (patience : Patience) : Action Reaped :=
  Action.await fun id machine =>
    match machine.reap id with
    | Option.none => (some .nothing, machine)
    | some (.done (child, fate), machine) => (some (.ended child fate), machine)
    | some (_, machine) =>
        let isSignalled := (machine.task? id).any fun task => !task.pending.isEmpty
        match patience with
        | .none => (some .nothing, machine)
        | .patient => (Option.none, machine)
        | .alert | .alertOnce =>
            (if isSignalled then some .interrupted else Option.none, machine)

/-- Takes note of the end of a process. Of an end by a signal it is told if the process belongs to the job
that is waited for. -/
def noteEnd (awaited : Option Nat) (id : Nat) (fate : Fate) : Action Unit := do
  match (← get).jobOf? id with
  | Option.none => return
  | some job => do
      modify fun shell => shell.updateJob job.number (·.noteFate id fate)
      if awaited = some job.number then
        match fate with
        | .exited _ => return
        | .killed signal =>
            if signal ≠ Kernel.Signal.interrupt && signal ≠ Kernel.Signal.brokenPipe then
              writeError (Signal.description signal ++ "\n")

def isRunning (number : Nat) : Action Bool := do
  return ((← get).job? number).any (!·.isDone)

/-- The rounds of waiting; the answer tells whether no signal has come in between. -/
def awaitRounds (fuel : Nat) (patience : Patience) (awaited : Option Nat) : Action Bool :=
  match fuel with
  | 0 => return true
  | fuel + 1 => do
      match ← reap patience with
      | .nothing => return true
      | reaped => do
          if let .ended id fate := reaped then noteEnd awaited id fate
          let isOver ← match awaited with
            | Option.none => pure false
            | some number => do pure !(← isRunning number)
          let isInterrupted := match reaped with
            | .interrupted => true
            | _ => false
          let patience :=
            if isInterrupted || isOver || patience = .alertOnce then .none else patience
          let others ← awaitRounds fuel patience awaited
          return others && !isInterrupted

/-- Waits for a job, or for any, and then takes note of all other ends. -/
def awaitJobs (patience : Patience) (awaited : Option Nat) : Action Bool := do
  let patience ← match awaited with
    | Option.none => pure patience
    | some number => do if ← isRunning number then pure patience else pure .none
  awaitRounds stepLimit patience awaited

/-- Waits for a job to be done and forgets it; the answer is its status. -/
def awaitJob (number : Nat) : Action Nat := do
  let _ ← awaitJobs .patient (some number)
  let status := (((← get).job? number).map (·.status)).getD 0
  modify (·.freeJob number)
  return status

def noteEnds : Action Unit := do
  let _ ← awaitJobs .none Option.none

/-! ## Jobs by name -/

def namedJob (operand : String) : Action Job := do
  let jobs := (← get).jobs
  let current : Action Job :=
    match jobs with
    | job :: _ => return job
    | [] => fail "No current job"
  match operand.toList with
  | ['%'] | ['%', '+'] | ['%', '%'] => current
  | ['%', '-'] =>
      match jobs with
      | _ :: job :: _ => return job
      | _ => fail "No previous job"
  | ['%', '?'] =>
      match jobs with
      | [] => fail s!"No such job: {operand}"
      | [job] => return job
      | _ => fail s!"{operand}: ambiguous"
  | '%' :: digits =>
      let number := digits.foldl (fun value c => value * 10 + (c.toNat - '0'.toNat)) 0
      match if digits.all Char.isDigit then jobs.find? (·.number = number) else Option.none with
      | some job => return job
      | Option.none => fail s!"No such job: {operand}"
  | _ => fail s!"No such job: {operand}"

/-- How a list of jobs shows processes. -/
inductive Listing
  | plain
  | withIds
  | idsOnly
deriving DecidableEq, Repr

/-- Shows a job, and forgets it if it is done. -/
def showJob (listing : Listing) (job : Job) : Action Unit := do
  if listing = .idsOnly then print s!"{((job.stages.head?.map (·.1)).getD 0)}\n"
  else
    let mark := match (← get).jobs with
      | first :: second :: _ =>
          if first.number = job.number then "+" else if second.number = job.number then "-" else " "
      | [first] => if first.number = job.number then "+" else " "
      | [] => " "
    let start := s!"[{job.number}] {mark} "
    let padded (text : String) : String := text ++ "".pushn ' ' (max 1 (33 - text.length))
    if listing = .withIds then
      let ids := job.stages.map (toString ·.1)
      print (padded (start ++ ids.headD "" ++ " " ++ job.condition))
      for id in ids.drop 1 do
        print (" |\n" ++ "".pushn ' ' start.length ++ id ++ " " ++ "".pushn ' ' (33 - (start.length + id.length + 1)))
      print "\n"
    else
      let pipes := String.join (job.stages.drop 1 |>.map fun _ => " | ")
      print (padded (start ++ job.condition) ++ pipes ++ "\n")
    modify fun shell => shell.updateJob job.number fun job => { job with hasChanged := false }
    if job.isDone then modify (·.freeJob job.number)

end LineShell.Script
