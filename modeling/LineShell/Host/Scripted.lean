import LineShell.Host.Basic
/-!
A host without a system behind it: it gives answers fixed in advance.
-/

namespace LineShell

/-- The answers of a scripted host. -/
structure Answers where
  /-- What a change of directory ends with, if it is to fail. -/
  changeDirError : Option IoError := none
  /-- What starting a program ends with, if it is to fail. -/
  runError : Option IoError := none
  output : String := ""
  status : ExitCode := 0
deriving DecidableEq, Repr

namespace Host

def scripted (answers : Answers) : Host Unit where
  changeDir _ world :=
    match answers.changeDirError with
    | some error => (.error error, world)
    | none => (.ok (), world)
  run invocation world :=
    match answers.runError, invocation.output with
    | some error, _ => (.error error, world)
    | none, none => (.ok answers.status, world)
    | none, some file =>
        match world.system.write file (utf8 answers.output) with
        | .error error => (.error error, world)
        | .ok (_, system) => (.ok answers.status, { world with system })

end Host

end LineShell
