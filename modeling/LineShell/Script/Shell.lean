import LineShell.Kernel.Program
import LineShell.Script.Token
/-!
A running script: what it knows and what it is doing. What it does is an action, which may wait, make
copies of the process and be cut short.
-/

namespace LineShell.Script

open Kernel (Machine Program Progress Fate)

structure Variable where
  value : Option String
  isExported : Bool := false
  isReadOnly : Bool := false
deriving DecidableEq, Repr

structure Function where
  body : Statement
  line : Nat

/-- More steps than it takes to read a text or to undo what a command has set. -/
def stepLimit : Nat := Nat.pow 2 32

/-- The letters of the options that are on, and the names of those that have no letter. -/
abbrev Options := List String

/-- What a function has hidden, and brings back when it ends. -/
inductive Hidden
  | variable (name : String) (value : Option Variable)
  | options (options : Options)

/-- A command that has been looked up, with the number of the search path entry it was found in. -/
structure Tracked where
  index : Nat
  /-- It is to be looked up again before it counts. -/
  isStale : Bool := false
deriving DecidableEq, Repr

/-- A command that runs as processes of its own. -/
structure Job where
  number : Nat
  /-- The processes, with what has become of those that have ended. -/
  stages : List (Nat × Option Fate)
  isWaitedFor : Bool := false
  /-- Its state has changed since somebody has looked at it. -/
  hasChanged : Bool := false

namespace Job

variable (job : Job)

def isDone : Bool :=
  job.stages.all (·.2.isSome)

end Job

/-- What is left out by a command that says where to go on. -/
inductive Skip
  | nothing
  | breaking (loops : Nat)
  /-- All but the last of so many loops are left. -/
  | continuing (loops : Nat)
  /-- The function, or the script that is included, is left, with a status of its own or without. -/
  | function (hasStatus : Bool)
deriving DecidableEq, Repr

/-- Why an action is cut short. -/
inductive Interruption
  /-- The script cannot go on; it has been told. -/
  | failed
  | ended
  | exiting
deriving DecidableEq, Repr

/-- A character of an expanded word. -/
inductive Glyph
  | plain (c : Char)
  | escaped (c : Char)
  | quote
deriving DecidableEq, Repr

/-- A stretch of an expanded word that is cut at separators. -/
structure Region where
  start : Nat
  stop : Nat
  isArguments : Bool
deriving DecidableEq, Repr

structure Draft where
  glyphs : Array Glyph := #[]
  regions : Array Region := #[]
deriving Repr

/-- How far the options among some arguments have been looked at. -/
structure OptionCursor where
  index : Nat := 1
  /-- The next letter within the argument before. -/
  offset : Option Nat := none
deriving DecidableEq, Repr

structure Shell where
  id : Nat
  rootId : Nat
  depth : Nat := 0
  backgroundId : Option Nat := none
  bindings : List (String × Variable) := []
  hidden : List (List Hidden) := []
  functions : List (String × Function) := []
  aliases : List (String × String) := []
  tracked : List (String × Tracked) := []
  options : Options := []
  /-- The options of which nothing has been said yet, while a script is being started. -/
  undecided : Options := []
  self : String
  arguments : List String := []
  cursor : OptionCursor := {}
  command : Option String := none
  status : Nat := 0
  substituted : Nat := 0
  /-- The status that a process takes back when what it does on its way out is done. -/
  saved : Option Nat := none
  line : Nat := 0
  loops : Nat := 0
  calls : Nat := 0
  skip : Skip := .nothing
  /-- What runs on signals, or under the number zero when the process exits. -/
  traps : List (Nat × String) := []
  /-- The signals that no trap changes, because they were ignored from the start. -/
  deafTo : List Nat := []
  source : Source := {}
  outer : List Source := []
  reading : Reading := {}
  /-- The documents that have been read, each at its number. -/
  documents : Array Word := #[]
  /-- What redirections at hand have hidden: descriptors with the private one that keeps each. -/
  redirections : List (List (Nat × Option Nat)) := []
  /-- The text before a command that is shown is being worked out. -/
  isTracing : Bool := false
  jobs : List Job := []
  draft : Draft := {}
  /-- What builtins have written and not yet sent. -/
  output : List String := []
  /-- The working directory as the script has come to it, which may lead through links. -/
  directory : String := ""
  isPlaced : Bool := false

/-- Something a process does: given what follows it, and what follows if it is cut short. -/
def Action (α : Type) : Type :=
  Shell → Machine → (α → Shell → Machine → Progress) → (Interruption → Shell → Machine → Progress) → Progress

namespace Action

variable {α β : Type}

instance : Monad Action where
  pure value := fun shell machine next _ => next value shell machine
  bind action rest := fun shell machine next stop =>
    action shell machine (fun value shell machine => rest value shell machine next stop) stop

instance : MonadStateOf Shell Action where
  get := fun shell machine next _ => next shell shell machine
  set shell := fun _ machine next _ => next () shell machine
  modifyGet change := fun shell machine next _ =>
    match change shell with
    | (value, shell) => next value shell machine

instance : MonadExceptOf Interruption Action where
  throw interruption := fun shell machine _ stop => stop interruption shell machine
  tryCatch action handle := fun shell machine next stop =>
    action shell machine next fun interruption shell machine =>
      handle interruption shell machine next stop

def attempt (action : Action α) : Action (Except Interruption α) := fun shell machine next _ =>
  action shell machine (fun value => next (.ok value)) (fun interruption => next (.error interruption))

def resume : Except Interruption α → Action α
  | .ok value => pure value
  | .error interruption => throw interruption

def pause : Action Unit := fun shell machine next _ =>
  (machine, .ready fun machine => next () shell machine)

def request (request : Nat → Machine → α × Machine) : Action α := fun shell machine next _ =>
  match request shell.id machine with
  | (value, machine) => next value shell machine

def ask (question : Nat → Machine → α) : Action α := fun shell machine next _ =>
  let value := question shell.id machine
  next value shell machine

/-- Waits until a request is answered. -/
def await (request : Nat → Machine → Option α × Machine) : Action α := fun shell machine next _ =>
  match request shell.id machine with
  | (some value, machine) => next value shell machine
  | (none, machine) =>
      (machine, .blocked fun machine =>
        match request shell.id machine with
        | (some value, machine) => some (next value shell machine)
        | (none, _) => none)

def finish (fate : Fate) : Action α := fun shell machine _ _ =>
  (machine.finish shell.id fate, .ended)

/-- Makes a copy of the process, which does something else and never comes to what follows here. The
answer is the number of the copy. -/
def fork (copy : Action Empty) : Action Nat := fun shell machine next _ =>
  match machine.fork shell.id with
  | (id, machine) =>
      (machine, .split id
        (.ready fun machine =>
          copy { shell with id } machine (fun value _ _ => value.elim)
            fun _ shell machine => (machine.finish shell.id (.exited 2), .ended))
        (.ready fun machine => next id shell machine))

def leave (action : Action Empty) : Action α := fun shell machine _ _ =>
  (machine, .ready fun machine =>
    action shell machine (fun value _ _ => value.elim)
      fun _ shell machine => (machine.finish shell.id (.exited 2), .ended))

def become (program : Nat → Machine → Progress) : Action α := fun shell machine _ _ =>
  (machine, .ready (program shell.id))

def setStatus (status : Nat) : Action Unit :=
  modify fun shell => { shell with status }

end Action

end LineShell.Script
