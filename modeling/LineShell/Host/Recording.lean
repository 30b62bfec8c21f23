import LineShell.Host.Basic
/-!
A host that writes down what it is asked before it lets another host answer.
-/

namespace LineShell

/-- Something that a host is asked to do. -/
inductive Request
  | changeDir (dir : Path)
  | run (invocation : Invocation)
deriving DecidableEq, Repr

/-- The memory of a host together with what it has been asked, the oldest request first. -/
structure Recorded (Memory : Type) where
  inner : Memory
  requests : List Request := []
deriving Repr

namespace Host

variable {Memory : Type}

/-- Lets a host answer, and keeps the record of all requests beside its memory. -/
def recorded (request : Request) (world : World (Recorded Memory)) {α : Type}
    (answer : World Memory → α × World Memory) : α × World (Recorded Memory) :=
  let (result, after) := answer { memory := world.memory.inner, system := world.system }
  let requests := world.memory.requests ++ [request]
  (result, { memory := { inner := after.memory, requests }, system := after.system })

def recording (host : Host Memory) : Host (Recorded Memory) where
  changeDir dir world := recorded (.changeDir dir) world (host.changeDir dir)
  run invocation world := recorded (.run invocation) world (host.run invocation)

end Host

end LineShell
