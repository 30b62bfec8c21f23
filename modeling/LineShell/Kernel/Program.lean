import LineShell.Kernel.Machine
/-!
Processes that take turns on one system. A process runs until it lets others have a turn, has to wait,
makes a copy of itself or ends; what it does next is a value.
-/

namespace LineShell.Kernel

/-- What a process does next. -/
inductive Program
  /-- Nothing: the process has ended. -/
  | ended
  | ready (go : Machine → Machine × Program)
  /-- The process waits until an attempt comes to something. -/
  | blocked (attempt : Machine → Option (Machine × Program))
  /-- The process goes on, and so does its copy of some number. -/
  | split (id : Nat) (copy rest : Program)

/-- A system together with what a process does next on it. -/
abbrev Progress := Machine × Program

/-- The system and the processes on it, in the order in which they get their turns. -/
structure Schedule where
  machine : Machine
  programs : List (Nat × Program)

namespace Schedule

/-- The steps that a process makes in one turn if it does not wait. -/
def turnLength : Nat := 4000

/-- What a turn of a process comes to: the system, what is left to be done, the copies it has made, and
whether anything has been done. -/
structure Turn where
  machine : Machine
  program : Program
  copies : List (Nat × Program) := []
  progress : Bool

/-- Runs a process for some steps. One that is gone or stopped does nothing. -/
def turn (id : Nat) (steps : Nat) (turn : Turn) : Turn :=
  match steps with
  | 0 => turn
  | steps + 1 =>
      match turn.machine.task? id with
      | none => { turn with program := .ended }
      | some task =>
          if task.fate.isSome then { turn with program := .ended }
          else if task.isStopped then turn
          else match turn with
            | { machine, program, copies, progress } =>
                match program with
                | .ended => { machine, program := .ended, copies, progress }
                | .ready go =>
                    let (machine, program) := go machine
                    Schedule.turn id steps { machine, program, copies, progress := true }
                | .blocked attempt =>
                    match attempt machine with
                    | none => { machine, program := .blocked attempt, copies, progress }
                    | some (machine, program) =>
                        Schedule.turn id steps { machine, program, copies, progress := true }
                | .split copy copied rest =>
                    Schedule.turn id steps
                      { machine, program := rest, copies := (copy, copied) :: copies
                        progress := true }

/-- Gives turns to processes until the system is in some state, or until all of them, one after the
other, have done nothing. -/
def run (fuel : Nat) (isOver : Machine → Bool) (idle : Nat) (schedule : Schedule) : Schedule :=
  match fuel with
  | 0 => schedule
  | fuel + 1 =>
      match schedule with
      | { machine, programs } =>
          match programs with
          | [] => { machine, programs := [] }
          | (id, program) :: others =>
              if isOver machine || others.length < idle then
                { machine, programs := (id, program) :: others }
              else
                let turn := Schedule.turn id turnLength { machine, program, progress := false }
                let rest := match turn.program with
                  | .ended => []
                  | program => [(id, program)]
                Schedule.run fuel isOver (if turn.progress then 0 else idle + 1)
                  { machine := turn.machine, programs := others ++ turn.copies.reverse ++ rest }

end Schedule

end LineShell.Kernel
