import LineShell.Environment
import LineShell.System
/-!
What the shell asks of the world around it: to work in another directory and to run programs. A host
may remember things, answer as it likes and change the system.
-/

namespace LineShell

abbrev ExitCode := Int

/-- All that a host needs to start a program. -/
structure Invocation where
  program : Path
  arguments : List String
  environment : Environment
  /-- Takes all that the program writes; without it the program writes to the shell's streams. -/
  output : Option OpenFile
deriving DecidableEq, Repr

/-- The system together with what a host remembers. -/
structure World (Memory : Type) where
  memory : Memory
  system : System
deriving Repr

structure Host (Memory : Type) where
  changeDir : Path → World Memory → Except IoError Unit × World Memory
  run : Invocation → World Memory → Except IoError ExitCode × World Memory

end LineShell
