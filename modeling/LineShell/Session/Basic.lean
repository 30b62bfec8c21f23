import LineShell.Command
import LineShell.Host.Basic
/-!
A session: what the shell holds from one line to the next.
-/

namespace LineShell

structure Session (Memory : Type) where
  environment : Environment
  /-- The lines entered so far, the oldest first. -/
  history : List String := []
  world : World Memory
deriving Repr

namespace Session

variable {Memory : Type} (session : Session Memory)

def system : System :=
  session.world.system

def withSystem (system : System) : Session Memory :=
  { session with world := { session.world with system } }

def resolve (argv : List String) : Option Command :=
  Command.resolve session.system session.environment argv

end Session

end LineShell
