import LineShell.Script.Job
import LineShell.Script.Operand
import LineShell.Script.Variable
/-!
The builtins that have to do with processes: their signals, their ends and what they may use.
-/

namespace LineShell.Script

open Kernel (Signal.bound Signal.name Signal.ofName?)

/-! ## Signals -/

def signalNumber? (text : String) : Option Nat :=
  let digits := text.toList
  if digits = [] || !digits.all Char.isDigit then none
  else some (Integer.digits 10 0 digits).1 |>.filter (· < Signal.bound)

/-- The signal that a text gives by its number, or by its name from a least number on. -/
def signalOf? (least : Nat) (text : String) : Option Nat :=
  match signalNumber? text with
  | some number => some number
  | none => Signal.ofName? least text

def terminalSignals : List Nat :=
  [Kernel.Signal.interrupt, Kernel.Signal.quit, Kernel.Signal.terminate]

/-- Has the system do with a signal what the trap for it asks for. A script that talks to somebody goes on
where a terminal wants the end of what it runs. -/
def arrangeSignal (signal : Nat) : Action Unit := do
  let shell ← get
  if signal ≠ 0 && !shell.deafTo.contains signal then
    let isKept := shell.depth = 0 && shell.has "interactive" && terminalSignals.contains signal
    let action := match shell.traps.lookup signal with
      | none => if isKept then some "" else none
      | some action => some action
    Action.request fun id machine =>
      ((), machine.updateTask id fun task =>
        let ignored := task.ignored.filter (· ≠ signal)
        let caught := task.caught.filter (· ≠ signal)
        match action with
        | none => { task with ignored, caught }
        | some "" => { task with ignored := signal :: ignored, caught }
        | some _ => { task with ignored, caught := signal :: caught })

/-- Has the system do with the signals of terminals what is to be done with them. -/
def arrangeTerminalSignals : Action Unit := do
  for signal in terminalSignals do arrangeSignal signal

/-- Has a text run on some conditions; without a text there is no trap for them any more. -/
def setTraps (action : Option String) : List String → Action Nat
  | [] => return 0
  | condition :: rest => do
      match signalOf? 0 condition with
      | none => do
          writeError s!"trap: {condition}: bad trap\n"
          return 1
      | some signal => do
          modify fun shell =>
            let others := shell.traps.filter (·.1 ≠ signal)
            { shell with traps := match action with
                | none => others
                | some action => (signal, action) :: others }
          arrangeSignal signal
          setTraps action rest

/-- Sets traps or shows them. A number that comes first, or a condition that comes alone, asks for no
trap. -/
def setTrap (operands : List String) : Action Nat := do
  match ← operandsOnly operands with
  | [] => do
      let traps := (← get).traps
      for signal in List.range Signal.bound do
        if let some action := traps.lookup signal then
          print s!"trap -- {quoted action} {Signal.name signal}\n"
      return 0
  | [condition] => setTraps none [condition]
  | action :: conditions =>
      if (signalNumber? action).isSome then setTraps none (action :: conditions)
      else setTraps (if action = "-" then none else some action) conditions

def killUsage : String :=
  "Usage: kill [-s sigspec | -signum | -sigspec] [pid | job]... or\nkill -l [exitstatus]"

/-- Sends a signal to a process. Those of other groups, and groups as a whole, are out of reach. -/
def sendSignal (signal : Nat) (target : String) : Action Bool := do
  let id ← match target.toList with
    | '%' :: _ => do
        let _ ← namedJob target
        pure none
    | '-' :: digits => do
        let _ ← operandNumber (String.ofList digits)
        pure none
    | _ => do pure (some (← operandNumber target))
  let isSent ← Action.request fun _ machine =>
    match id.bind fun id => machine.send id signal with
    | some machine => (true, machine)
    | none => (false, machine)
  Action.pause
  if !isSent then complain "No such process\n"
  return isSent

def sendSignals (signal : Nat) (targets : List String) : Action Nat := do
  let mut status := 0
  for target in targets do
    if !(← sendSignal signal target) then status := 1
  return status

/-- Shows the name of the signal that a number or a status stands for, or all names. -/
def listSignals (operands : List String) : Action Nat := do
  match operands with
  | [] => do
      print "0\n"
      for signal in (List.range Signal.bound).drop 1 do print (Signal.name signal ++ "\n")
      return 0
  | operand :: _ => do
      let number ← operandNumber operand
      let signal := if 128 < number then number - 128 else number
      if 0 < signal && signal < Signal.bound then
        print (Signal.name signal ++ "\n")
        return 0
      else fail s!"invalid signal number or exit status: {operand}"

/-- The options of `kill` that name no signal right behind their dash: whether to list, and a signal. -/
def killOptions (fuel : Nat) (letters : List Char) (operands : List String) (lists : Bool)
    (signal : Option Nat) : Action (Bool × Option Nat × List String) :=
  match fuel with
  | 0 => return (lists, signal, operands)
  | fuel + 1 => do
      match ← nextOption ['l'] ['s'] letters operands with
      | .ended operands => return (lists, signal, operands)
      | .option 's' (some name) letters operands =>
          match signalOf? 1 name with
          | some signal => killOptions fuel letters operands lists (some signal)
          | none => fail s!"invalid signal number or name: {name}"
      | .option _ _ letters operands => killOptions fuel letters operands true signal

def sendOrList (operands : List String) : Action Nat := do
  match operands with
  | [] => fail killUsage
  | first :: rest => do
      let direct := match first.toList with
        | '-' :: name => signalOf? 1 (String.ofList name)
        | _ => none
      let (lists, signal, targets) ←
        match direct, first.startsWith "-" with
        | some signal, _ => pure (false, some signal, rest)
        | none, true => killOptions (first.length + 2 * operands.length + 2) [] operands false none
        | none, false => pure (false, none, operands)
      if lists then
        if signal.isSome && targets ≠ [] then fail killUsage else listSignals targets
      else if targets = [] then fail killUsage
      else sendSignals (signal.getD Kernel.Signal.terminate) targets

/-! ## Jobs -/

def signalledStatus : Action Nat :=
  Action.ask fun id machine =>
    128 + (((machine.task? id).bind (·.pending.getLast?)).getD 0)

/-- Waits until all jobs are done. -/
def waitForAll (fuel : Nat) : Action Nat :=
  match fuel with
  | 0 => return 0
  | fuel + 1 => do
      if (← get).jobs.all (·.isDone) then
        modify fun shell =>
          { shell with jobs := shell.jobs.map fun job => { job with isWaitedFor := true } }
        return 0
      else if ← awaitJobs .alertOnce none then waitForAll fuel
      else signalledStatus

/-- Waits for the jobs that operands name; the answer is the status of the last. -/
def waitForEach (status : Nat) : List String → Action Nat
  | [] => return status
  | operand :: rest => do
      let job ←
        if operand.startsWith "%" then do pure (some (← namedJob operand))
        else do
          let id ← operandNumber operand
          pure ((← get).jobs.find? fun job => job.processId? = some id)
      match job with
      | none => waitForEach status rest
      | some job => do
          if ← awaitJobs .alert (some job.number) then
            modify fun shell =>
              shell.updateJob job.number fun job => { job with isWaitedFor := true }
            waitForEach ((((← get).job? job.number).map (·.status)).getD 0) rest
          else signalledStatus

def wait (operands : List String) : Action Nat := do
  match ← operandsOnly operands with
  | [] => waitForAll stepLimit
  | operands => waitForEach 127 operands

def listJobs (operands : List String) : Action Nat := do
  let (options, operands) ← takeOptions "lp" "" operands
  let listing := match options.getLast?.map (·.1) with
    | none => Listing.plain
    | some 'l' => .withIds
    | some _ => .idsOnly
  if operands = [] then
    noteEnds
    for job in (← get).jobs do showJob listing job
  else
    for operand in operands do showJob listing (← namedJob operand)
  return 0

def controlJob (operands : List String) : Action Nat := do
  match ← operandsOnly operands with
  | [] => do
      let _ ← namedJob "%"
      fail "job (null) not created under job control"
  | operand :: _ => do
      let _ ← namedJob operand
      fail s!"job {operand} not created under job control"

/-! ## Use -/

/-- What may be limited: the letter, the text by which it is shown, the unit, and the limit that a process
starts out with. -/
def limitTable : List (Char × String × Kernel.Limit) :=
  [ ('t', "time(seconds)", ⟨none, none⟩), ('f', "file(blocks)", ⟨none, none⟩),
    ('d', "data(kbytes)", ⟨none, none⟩), ('s', "stack(kbytes)", ⟨some 8192, none⟩),
    ('c', "coredump(blocks)", ⟨some 0, none⟩), ('m', "memory(kbytes)", ⟨none, none⟩),
    ('l', "locked memory(kbytes)", ⟨some 8192, some 8192⟩),
    ('p', "process", ⟨some 128620, some 128620⟩), ('n', "nofiles", ⟨some 20000, some 20000⟩),
    ('v', "vmemory(kbytes)", ⟨none, none⟩), ('w', "locks", ⟨none, none⟩),
    ('r', "rtprio", ⟨some 0, some 0⟩) ]

def limitOf (letter : Char) : Action Kernel.Limit := do
  let changed ← Action.ask fun id machine => (machine.task? id).bind (·.limits.lookup letter)
  return changed.getD (((limitTable.lookup letter).map (·.2)).getD ⟨none, none⟩)

/-- A limit as it is shown, the hard one if only that is asked for. -/
def shownLimit (isHard : Bool) (limit : Kernel.Limit) : String :=
  match if isHard then limit.hard else limit.soft with
  | none => "unlimited\n"
  | some value => s!"{value}\n"

def exceeds (limit bound : Option Nat) : Bool :=
  match limit, bound with
  | _, none => false
  | none, some _ => true
  | some limit, some bound => bound < limit

/-- Sets a limit, which nobody can raise beyond the hard one. -/
def setLimit (letter : Char) (isSoft isHard : Bool) (value : Option Nat) : Action Nat := do
  let old ← limitOf letter
  let limit : Kernel.Limit :=
    { soft := if isSoft then value else old.soft, hard := if isHard then value else old.hard }
  if exceeds limit.soft limit.hard then fail "error setting limit (Invalid argument)"
  else if exceeds limit.hard old.hard then fail "error setting limit (Operation not permitted)"
  else
    Action.request fun id machine =>
      ((), machine.updateTask id fun task =>
        { task with limits := (letter, limit) :: task.limits.filter (·.1 ≠ letter) })
    return 0

def limitUse (operands : List String) : Action Nat := do
  let (options, operands) ← takeOptions "HSatfdscmlpnvwr" "" operands
  let letters := options.map (·.1)
  let listsAll := letters.contains 'a'
  let side := (letters.filter fun c => c = 'H' || c = 'S').getLast?
  let letter := ((letters.filter (· ∉ ['H', 'S', 'a'])).getLast?).getD 'f'
  match operands with
  | [] => do
      if listsAll then
        for (letter, text, _) in limitTable do
          print (String.ofList (text.toList.rightpad 20 ' ') ++ " ")
          print (shownLimit (side = some 'H') (← limitOf letter))
      else print (shownLimit (side = some 'H') (← limitOf letter))
      return 0
  | operand :: others => do
      if listsAll || others ≠ [] then fail "too many arguments"
      else if operand = "unlimited" then setLimit letter (side ≠ some 'H') (side ≠ some 'S') none
      else if !operand.toList.all Char.isDigit then fail "bad number"
      else
        let value := (Integer.digits 10 0 operand.toList).1
        setLimit letter (side ≠ some 'H') (side ≠ some 'S') (some value)

def showTimes (_ : List String) : Action Nat := do
  let time := "0m0.000000s 0m0.000000s\n"
  print (time ++ time)
  return 0

end LineShell.Script
