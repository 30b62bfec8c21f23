import LineShell.FileSystem.OpenFile
/-!
What the descriptors of processes stand for: files that are read and written at an offset, the ends of
pipes, and the two streams of the shell.
-/

namespace LineShell.Kernel

/-- Bytes on their way from one process to another. -/
structure Pipe where
  front : List Bytes := []
  /-- What is read after that, the youngest chunk first. -/
  back : List Bytes := []
  size : Nat := 0
deriving Repr

namespace Pipe

/-- The bytes that a pipe takes before a writer has to wait. -/
def capacity : Nat := 65536

/-- The bytes that are written in one piece or not yet. -/
def atom : Nat := 4096

def push (pipe : Pipe) (bytes : Bytes) : Pipe :=
  if bytes = [] then pipe
  else { pipe with back := bytes :: pipe.back, size := pipe.size + bytes.length }

def content (pipe : Pipe) : Bytes :=
  (pipe.front ++ pipe.back.reverse).flatten

/-- Takes bytes out of chunks, at most so many. -/
def takeChunks (count : Nat) : List Bytes → Bytes × List Bytes
  | [] => ([], [])
  | chunk :: rest =>
      if count < chunk.length then (chunk.take count, chunk.drop count :: rest)
      else
        let (others, rest) := takeChunks (count - chunk.length) rest
        (chunk ++ others, rest)

/-- Takes bytes out of a pipe, at most so many. -/
def take (pipe : Pipe) (count : Nat) : Bytes × Pipe :=
  let (front, back) :=
    if pipe.front.isEmpty then (pipe.back.reverse, []) else (pipe.front, pipe.back)
  let (bytes, front) := takeChunks count front
  (bytes, { front, back, size := pipe.size - bytes.length })

end Pipe

/-- Something open. Descriptors that are copies of each other stand for one channel. -/
inductive Channel
  | output
  | errors
  | file (location : Location) (offset : Nat) (opening : Opening)
  | source (pipe : Nat)
  | sink (pipe : Nat)
deriving DecidableEq, Repr

/-- A number by which a process knows a channel. -/
structure Descriptor where
  number : Nat
  channel : Nat
  /-- A program that takes the place of the process does not get it. -/
  isPrivate : Bool := false
deriving DecidableEq, Repr

/-- How a process ends. -/
inductive Fate
  | exited (status : Nat)
  | killed (signal : Nat)
deriving DecidableEq, Repr

/-- How much of something a process may use, where that is bounded, and how far it may raise that. -/
structure Limit where
  soft : Option Nat
  hard : Option Nat
deriving DecidableEq, Repr

/-- A process as the system knows it. -/
structure Task where
  parent : Nat
  descriptors : List Descriptor
  workingDir : Location
  /-- The permissions that new files do not get. -/
  mask : Nat := 0o022
  limits : List (Char × Limit) := []
  ignored : List Nat := []
  /-- The signals that are kept until the process asks for them. -/
  caught : List Nat := []
  /-- The signals that have been kept, the latest last. -/
  pending : List Nat := []
  isStopped : Bool := false
  fate : Option Fate := none
deriving Repr

namespace Task

variable (task : Task)

def descriptor? (number : Nat) : Option Descriptor :=
  task.descriptors.find? (·.number = number)

def bind (number channel : Nat) (isPrivate : Bool) : Task :=
  { task with
    descriptors :=
      { number, channel, isPrivate } :: task.descriptors.filter (·.number ≠ number) }

def close (number : Nat) : Task :=
  { task with descriptors := task.descriptors.filter (·.number ≠ number) }

def freeNumber (least : Nat) : Nat :=
  let taken := task.descriptors.map (·.number)
  ((List.range (taken.length + 1)).map (least + ·)).find? (!taken.contains ·) |>.getD least

end Task

end LineShell.Kernel
