import LineShell.Script.Expansion
/-!
Redirections: what the descriptors of a script are made to stand for while a command runs. What they stood
for before is kept under private numbers.
-/

namespace LineShell.Script

/-- What a redirection leads to, once its word is expanded. -/
inductive Target
  | path (kind : RedirectKind) (path : String)
  | copy (descriptor : Nat)
  | closed
  | document (number : Nat)

structure Redirected where
  descriptor : Nat
  target : Target

def privateNumber : Nat := 10

/-- A redirection with its word expanded. The lines of documents are expanded later on. -/
def expandRedirect (capture : Capture) : Redirect → Action Redirected
  | .redirect descriptor kind word => do
      match kind with
      | .document number => return { descriptor, target := .document number }
      | .duplicate => do
          let text ← expandText capture { tilde := true } word
          match text.toList with
          | ['-'] => return { descriptor, target := .closed }
          | [digit] =>
              if digit.isDigit then
                return { descriptor, target := .copy (digit.toNat - '0'.toNat) }
              else refuse .badDescriptor
          | _ => refuse .badDescriptor
      | kind => do
          let path ← expandText capture { tilde := true } word
          return { descriptor, target := .path kind path }

/-! ## Channels -/

def nodeAt? (path : String) : Action (Option Node) :=
  Action.ask fun id machine =>
    match machine.task? id with
    | none => none
    | some task => ((machine.filesOf id).stat task.workingDir (Octets.toPath path)).toOption

/-- Tries to open a file; the answer is its channel. -/
def tryFile (path : String) (opening : Opening) : Action (Except IoError Nat) :=
  Action.request fun id machine =>
    match machine.openPath id (Octets.toPath path) opening with
    | .error error => (.error error, machine)
    | .ok (channel, machine) =>
        match machine.addChannel channel with
        | (number, machine) => (.ok number, machine)

/-- Opens a file; the answer is its channel. -/
def openFile (path : String) (opening : Opening) : Action Nat := do
  match ← tryFile path opening with
  | .ok channel => return channel
  | .error error => fail (if opening.creates then createRefusal path error else openRefusal path error)

/-- How a file is opened that is to be started anew, where the options may forbid it for one that is
there. -/
def truncation (path : String) : Action Opening := do
  if !(← get).has "noclobber" then return .truncate
  else
    match ← nodeAt? path with
    | none => return .fresh
    | some (.file _ _) | some .interpreter => fail s!"cannot create {path}: File exists"
    | some _ => return .present

/-! ## Pipes -/

/-- Opens a pipe; the answer is the private numbers of its ends, that for reading first. -/
def openPipeEnds : Action (Nat × Nat) :=
  Action.request fun id machine =>
    match machine.openPipe with
    | ((source, sink), machine) =>
        let free (machine : Kernel.Machine) : Nat :=
          ((machine.task? id).map (·.freeNumber privateNumber)).getD privateNumber
        let reader := free machine
        let machine := machine.bind id reader source true
        let writer := free machine
        ((reader, writer), machine.bind id writer sink true)

def closeEnd (number : Nat) : Action Unit :=
  Action.request fun id machine => ((), machine.close id number)

/-- Has a descriptor stand for an end of a pipe, which loses its private number. -/
def moveEnd (number descriptor : Nat) : Action Unit :=
  Action.request fun id machine =>
    match machine.channelOf? id number with
    | none => ((), machine)
    | some channel => ((), (machine.bind id descriptor channel false).close id number)

/-- The bytes that go into a pipe before anybody reads from it. -/
def pipeAtom : Nat := Kernel.Pipe.atom

/-- Puts a text into a pipe, with the help of another process if it is long; the answer is the private
number to read it from. -/
def openText (text : String) : Action Nat := do
  let (reader, writer) ← openPipeEnds
  if text.length ≤ pipeAtom then
    let _ ← write writer text
  else
    let _ ← Action.fork do
      closeEnd reader
      let _ ← write writer text
      Action.finish (.exited 0)
  closeEnd writer
  return reader

/-! ## Descriptors -/

/-- Keeps what a descriptor stands for under a private number, and closes it; the answer is that number,
if there is anything to keep. -/
def keepDescriptor (descriptor : Nat) : Action (Option Nat) :=
  Action.request fun id machine =>
    match machine.task? id, machine.channelOf? id descriptor with
    | some task, some channel =>
        let number := task.freeNumber privateNumber
        (some number, (machine.bind id number channel true).close id descriptor)
    | _, _ => (none, machine)

/-- Keeps what a descriptor stands for, to bring it back when the redirections at hand end. -/
def saveDescriptor (descriptor : Nat) : Action Unit := do
  match (← get).redirections with
  | [] => return
  | top :: others =>
      if !top.any (·.1 = descriptor) then
        let kept ← keepDescriptor descriptor
        modify fun shell =>
          { shell with redirections := ((descriptor, kept) :: top) :: others }

def redirectTo (capture : Capture) (saves : Bool) (redirected : Redirected) : Action Unit := do
  let { descriptor, target } := redirected
  let save : Action Unit := if saves then saveDescriptor descriptor else return
  match target with
  | .path kind path => do
      let opening ← match kind with
        | .truncate => truncation path
        | .overwrite => pure .truncate
        | .append => pure .extend
        | .inputOutput => pure .update
        | _ => pure .read
      let channel ← openFile path opening
      save
      Action.request fun id machine => ((), machine.bind id descriptor channel false)
  | .document number => do
      let word := ((← get).documents[number]?).getD []
      let reader ← openText (← expandText capture { quoted := true } word)
      save
      moveEnd reader descriptor
  | .copy source => do
      if source ≠ descriptor then
        save
        let isOpen ← Action.request fun id machine =>
          match machine.channelOf? id source with
          | none => (false, machine)
          | some channel => (true, machine.bind id descriptor channel false)
        if !isOpen then fail s!"{source}: Bad file descriptor"
  | .closed => do
      save
      closeEnd descriptor

def redirectAll (capture : Capture) (saves : Bool) (redirected : List Redirected) : Action Unit := do
  for each in redirected do redirectTo capture saves each

def pushRedirections : Action Unit :=
  modify fun shell => { shell with redirections := [] :: shell.redirections }

/-- Sets up redirections that end together; the answer tells whether they could be set up. -/
def redirectSafely (capture : Capture) (redirected : List Redirected) : Action Bool := do
  match ← Action.attempt (redirectAll capture true redirected) with
  | .ok () => return true
  | .error .failed => return false
  | .error interruption => throw interruption

def restoreDescriptor (isFinal : Bool) (saved : Nat × Option Nat) : Action Unit :=
  Action.request fun id machine =>
    match saved with
    | (descriptor, none) => ((), if isFinal then machine else machine.close id descriptor)
    | (descriptor, some kept) =>
        let machine :=
          match machine.channelOf? id kept with
          | some channel => if isFinal then machine else machine.bind id descriptor channel false
          | none => machine
        ((), machine.close id kept)

/-- Ends the last redirections; those that are final stay as they are. -/
def popRedirections (isFinal : Bool) : Action Unit := do
  match (← get).redirections with
  | [] => return
  | top :: others => do
      modify fun shell => { shell with redirections := others }
      for saved in top do restoreDescriptor isFinal saved

/-- Ends redirections down to so many. -/
def unwindRedirections (fuel depth : Nat) : Action Unit :=
  match fuel with
  | 0 => return
  | fuel + 1 => do
      if depth < (← get).redirections.length then
        popRedirections false
        unwindRedirections fuel depth

/-- The private number under which the error stream of the script is kept, if it is redirected. -/
def keptErrors : Action (Option Nat) := do
  match (← get).redirections with
  | [] => return none
  | top :: _ => return (top.lookup 2).bind id

end LineShell.Script
