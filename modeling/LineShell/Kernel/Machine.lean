import LineShell.Kernel.Channel
import LineShell.Kernel.Signal
import LineShell.System
/-!
The system that processes share: the files, what is open, and the processes with their descriptors and
signals. Each request is a function on it.
-/

namespace LineShell.Kernel

structure Machine where
  files : FileSystem
  /-- What has gone to the output stream of the shell, the latest first. -/
  output : List Bytes := []
  /-- What has gone to the error stream of the shell, the latest first. -/
  errors : List Bytes := []
  channels : Array Channel := #[]
  pipes : Array Pipe := #[]
  tasks : List (Nat × Task) := []
  nextId : Nat := 4242
deriving Repr

/-- What comes of a request that may have to wait. -/
inductive Answer (α : Type)
  | done (value : α)
  | waiting
  | refused (errno : Errno)

namespace Machine

variable (machine : Machine)

/-! ## Processes -/

def task? (id : Nat) : Option Task :=
  machine.tasks.lookup id

def updateTask (id : Nat) (change : Task → Task) : Machine :=
  { machine with
    tasks := machine.tasks.map fun entry =>
      if entry.1 = id then (id, change entry.2) else entry }

/-- Whether a process is there and has not ended. -/
def isAlive (id : Nat) : Bool :=
  (machine.task? id).any (·.fate.isNone)

/-- Puts a process that is like another into the system; the answer is its number. -/
def fork (id : Nat) : Nat × Machine :=
  match machine.task? id with
  | none => (machine.nextId, { machine with nextId := machine.nextId + 1 })
  | some task =>
      let child := { task with parent := id, pending := [] }
      (machine.nextId,
        { machine with
          tasks := (machine.nextId, child) :: machine.tasks
          nextId := machine.nextId + 1 })

def keepSignal (id signal : Nat) : Machine :=
  machine.updateTask id fun task =>
    if task.caught.contains signal then
      { task with pending := task.pending.filter (· ≠ signal) ++ [signal] }
    else task

/-- Ends a process, of which its parent is told. Its children that have ended are nobody's business any
more. -/
def finish (id : Nat) (fate : Fate) : Machine :=
  let ended := machine.updateTask id fun task =>
    { task with fate := some fate, descriptors := [], isStopped := false }
  let told := match machine.task? id with
    | some task => ended.keepSignal task.parent Signal.child
    | none => ended
  { told with
    tasks := told.tasks.filter fun (_, task) => task.parent ≠ id || task.fate.isNone }

/-- Takes a child that has ended out of the system. Without any to take it tells whether to wait. -/
def reap (id : Nat) : Option (Answer (Nat × Fate) × Machine) :=
  let children := machine.tasks.filter (·.2.parent = id)
  match children.reverse.findSome? fun (child, task) => task.fate.map ((child, ·)) with
  | some (child, fate) =>
      some (.done (child, fate),
        { machine with tasks := machine.tasks.filter (·.1 ≠ child) })
  | none => if children.isEmpty then none else some (.waiting, machine)

/-- What a program that takes the place of a process finds: no private descriptors, and no signals
that are kept. -/
def renew (id : Nat) : Machine :=
  machine.updateTask id fun task =>
    { task with
      descriptors := task.descriptors.filter (!·.isPrivate)
      caught := []
      pending := [] }

/-! ## Signals -/

def deliver (id signal : Nat) : Machine :=
  match machine.task? id with
  | none => machine
  | some task =>
      if task.fate.isSome then machine
      else
        let resumed := Signal.effect signal = .resumes || signal = Signal.kill
        let machine :=
          if resumed then machine.updateTask id fun task => { task with isStopped := false }
          else machine
        if signal = Signal.kill then machine.finish id (.killed signal)
        else if signal = Signal.stop then
          machine.updateTask id fun task => { task with isStopped := true }
        else if task.ignored.contains signal then machine
        else if task.caught.contains signal then machine.keepSignal id signal
        else match Signal.effect signal with
          | .ends => machine.finish id (.killed signal)
          | .stops => machine.updateTask id fun task => { task with isStopped := true }
          | .resumes | .nothing => machine

/-- Sends a signal to a process, if there is one of that number. -/
def send (id signal : Nat) : Option Machine :=
  match machine.task? id with
  | none => none
  | some _ => some (if signal = 0 then machine else machine.deliver id signal)

/-! ## Descriptors -/

def channelOf? (id number : Nat) : Option Nat :=
  ((machine.task? id).bind (·.descriptor? number)).map (·.channel)

/-- Opens a channel; the answer is its number. -/
def addChannel (channel : Channel) : Nat × Machine :=
  (machine.channels.size, { machine with channels := machine.channels.push channel })

def bind (id number channel : Nat) (isPrivate : Bool) : Machine :=
  machine.updateTask id (·.bind number channel isPrivate)

def close (id number : Nat) : Machine :=
  machine.updateTask id (·.close number)

/-- Opens a pipe; the answer is the channels of its ends, that for reading first. -/
def openPipe : (Nat × Nat) × Machine :=
  let pipe := machine.pipes.size
  let machine := { machine with pipes := machine.pipes.push {} }
  let (source, machine) := machine.addChannel (.source pipe)
  let (sink, machine) := machine.addChannel (.sink pipe)
  ((source, sink), machine)

def hasChannel (wanted : Channel) : Bool :=
  machine.tasks.any fun (_, task) =>
    task.descriptors.any fun descriptor => machine.channels[descriptor.channel]? = some wanted

/-- What a process finds among the files for a channel that it has under a number. -/
def channelNode (number : Nat) : Channel → Node
  | .file location _ _ => .link location.path
  | .output | .errors | .source _ | .sink _ => .device (.descriptor number)

/-- The files as a process sees them: among them is what it has open. -/
def filesOf (id : Nat) : FileSystem :=
  let descriptors := ((machine.task? id).map (·.descriptors)).getD []
  { machine.files with
    descriptors := descriptors.filterMap fun descriptor =>
      machine.channels[descriptor.channel]?.map fun channel =>
        (toString descriptor.number, channelNode descriptor.number channel) }

/-- The files as a process sees them while it reads a directory, which it has open to do so. -/
def filesListed (id : Nat) : FileSystem :=
  let files := machine.filesOf id
  let number := ((machine.task? id).map (·.freeNumber 0)).getD 0
  { files with
    descriptors :=
      (toString number, .link FileSystem.descriptorDirectory.path) :: files.descriptors }

/-- The channel that stands for the file at a path. Where that is a pipe which the process has open, the
channel is the end of it that is asked for. -/
def openPath (id : Nat) (path : Path) (opening : Opening) : Except IoError (Channel × Machine) :=
  match machine.task? id with
  | none => .error (.system .badDescriptor)
  | some task => do
      let mode := 0o666 &&& (0o777 ^^^ task.mask)
      let seen := machine.filesOf id
      let (location, files) ← seen.openAt task.workingDir path opening mode
      let machine := { machine with files := { files with descriptors := [] } }
      match seen.node? location with
      | some (.device (.descriptor number)) =>
          match (machine.channelOf? id number).bind (machine.channels[·]?) with
          | none => throw (.system .noEntry)
          | some (.source pipe) | some (.sink pipe) =>
              return (if opening.writes then .sink pipe else .source pipe, machine)
          | some channel => return (channel, machine)
      | _ => return (.file location 0 opening, machine)

/-! ## Reading and writing -/

/-- Reads at most so many bytes; none are read at the end. -/
def read (id number count : Nat) : Answer Bytes × Machine :=
  match machine.channelOf? id number with
  | none => (.refused .badDescriptor, machine)
  | some channel =>
      match machine.channels[channel]? with
      | some (.file location offset opening) =>
          match machine.files.node? location with
          | some (.file _ bytes) =>
              let taken := (bytes.drop offset).take count
              (.done taken,
                { machine with
                  channels :=
                    machine.channels.set! channel (.file location (offset + taken.length) opening) })
          | some .directory => (.refused .isDirectory, machine)
          | some (.device .zero) => (.done (List.replicate count 0), machine)
          | _ => (.done [], machine)
      | some (.source pipe) =>
          match machine.pipes[pipe]? with
          | none => (.done [], machine)
          | some content =>
              if content.size = 0 then
                (if machine.hasChannel (.sink pipe) then .waiting else .done [], machine)
              else
                let (bytes, content) := content.take count
                (.done bytes, { machine with pipes := machine.pipes.set! pipe content })
      | _ => (.refused .badDescriptor, machine)

/-- Writes to a file at the place where the channel stands, or at the end of the file. -/
def writeFile (channel : Nat) (location : Location) (offset : Nat) (opening : Opening)
    (bytes : Bytes) : Answer Nat × Machine :=
  if !opening.writes then (.refused .badDescriptor, machine)
  else match machine.files.write { location, append := opening.append, offset } bytes with
    | .error (.system errno) => (.refused errno, machine)
    | .error _ => (.refused .badDescriptor, machine)
    | .ok (file, files) =>
        (.done bytes.length,
          { machine with
            files
            channels := machine.channels.set! channel (.file location file.offset opening) })

/-- Writes bytes; the answer is how many of them are taken. Without a reader the writer of a pipe gets a
signal. -/
def write (id number : Nat) (bytes : Bytes) : Answer Nat × Machine :=
  match machine.channelOf? id number with
  | none => (.refused .badDescriptor, machine)
  | some channel =>
      match machine.channels[channel]? with
      | some .output => (.done bytes.length, { machine with output := bytes :: machine.output })
      | some .errors => (.done bytes.length, { machine with errors := bytes :: machine.errors })
      | some (.file location offset opening) =>
          machine.writeFile channel location offset opening bytes
      | some (.sink pipe) =>
          match machine.pipes[pipe]? with
          | none => (.refused .brokenPipe, machine)
          | some content =>
              if !machine.hasChannel (.source pipe) then
                (.refused .brokenPipe, machine.deliver id Signal.brokenPipe)
              else
                let room := Pipe.capacity - content.size
                if room = 0 || room < bytes.length && bytes.length ≤ Pipe.atom then
                  (.waiting, machine)
                else
                  let taken := bytes.take room
                  (.done taken.length,
                    { machine with pipes := machine.pipes.set! pipe (content.push taken) })
      | _ => (.refused .badDescriptor, machine)

def written : List Location :=
  machine.tasks.flatMap fun (_, task) =>
    task.descriptors.filterMap fun descriptor =>
      match (machine.channels[descriptor.channel]? : Option Channel) with
      | some (.file location _ opening) => if opening.writes then some location else none
      | _ => none

end Machine

end LineShell.Kernel
