import LineShell.Redirection
import LineShell.Session.Builtin
import LineShell.Words
/-!
Running lines. A line is trimmed, cut into words and parted from its redirection; its first word says
what runs. Only an output that fails outside a builtin ends a line with an error; all else is an
outcome.
-/

namespace LineShell

/-- What a call leaves behind: its result, the session after it and its output. -/
structure Turn (Memory : Type) where
  result : Except IoError Outcome
  session : Session Memory
  sink : Sink

namespace Session

variable {Memory : Type} (host : Host Memory)

/-- Opens the target of a redirection, which is seen from the current directory. -/
def openRedirect (session : Session Memory) (redirect : Redirection) :
    Except Failure (OpenFile × Session Memory) :=
  match session.system.openForWriting (session.environment.currentDir.join redirect.target)
      redirect.append with
  | .error cause => .error (.openRedirect redirect.target.text cause)
  | .ok (file, system) => .ok (file, session.withSystem system)

def runBuiltin (builtin : Builtin) (operands : List String) (session : Session Memory) (sink : Sink) :
    Turn Memory :=
  match session.perform host builtin operands with
  | (.error failure, session) => ⟨.ok (.failed failure), session, sink⟩
  | (.ok report, session) =>
      let (outcome, sink) := builtin.deliver report sink
      ⟨.ok outcome, session, sink⟩

def runBuiltinInto (redirect : Redirection) (builtin : Builtin) (operands : List String)
    (session : Session Memory) (sink : Sink) : Turn Memory :=
  match session.openRedirect redirect with
  | .error failure => ⟨.ok (.failed failure), session, sink⟩
  | .ok (file, session) =>
      match session.perform host builtin operands with
      | (.error failure, session) => ⟨.ok (.failed failure), session, sink⟩
      | (.ok report, session) =>
          let (outcome, system) := builtin.deliverToFile report file session.system
          ⟨.ok outcome, session.withSystem system, sink⟩

/-- Has the host run a program, once the sink has let go of all it holds. -/
def runProgram (program : Path) (arguments : List String) (output : Option OpenFile)
    (session : Session Memory) (sink : Sink) : Turn Memory :=
  match sink.flush with
  | .error cause => ⟨.error cause, session, sink⟩
  | .ok () =>
      let invocation := { program, arguments, environment := session.environment, output }
      match host.run invocation session.world with
      | (.ok status, world) => ⟨.ok { status }, { session with world }, sink⟩
      | (.error cause, world) =>
          ⟨.ok (.failed (.spawn program.text cause)), { session with world }, sink⟩

def reportNotFound (name : String) (session : Session Memory) (sink : Sink) : Turn Memory :=
  match sink.write (utf8 s!"{name}: command not found\n") with
  | (.error cause, sink) => ⟨.error cause, session, sink⟩
  | (.ok (), sink) => ⟨.ok { status := Outcome.notFoundStatus }, session, sink⟩

/-- Runs a resolved command. A redirection takes effect on programs and on those builtins that honor
it; in all other cases its target is not touched. -/
def dispatch (command : Command) (redirect : Option Redirection) (session : Session Memory)
    (sink : Sink) : Turn Memory :=
  match command.kind with
  | .builtin builtin =>
      match redirect.filter fun _ => builtin.honorsRedirection with
      | some redirect => session.runBuiltinInto host redirect builtin command.arguments sink
      | none => session.runBuiltin host builtin command.arguments sink
  | .external program =>
      match redirect with
      | none => session.runProgram host program command.arguments none sink
      | some redirect =>
          match session.openRedirect redirect with
          | .error failure => ⟨.ok (.failed failure), session, sink⟩
          | .ok (file, session) => session.runProgram host program command.arguments (some file) sink
  | .notFound => session.reportNotFound command.name sink

/-- What a line as the user typed it asks for: a command, unless it has no words, and where the
output of that goes. -/
def understand (session : Session Memory) (line : String) :
    Except MissingOutputFile (Option Command × Option Redirection) :=
  match CommandLine.ofWords (Words.ofLine (trimmed line)) with
  | .error missing => .error missing
  | .ok command => .ok (session.resolve command.argv, command.redirect)

def executeLine (line : String) (session : Session Memory) (sink : Sink) : Turn Memory :=
  match session.understand line with
  | .error missing =>
      let outcome :=
        { status := Outcome.syntaxErrorStatus
          diagnostic := some (.missingOutputFile missing.operator) }
      ⟨.ok outcome, session, sink⟩
  | .ok (none, _) => ⟨.ok .success, session, sink⟩
  | .ok (some command, redirect) => session.dispatch host command redirect sink

/-- Enters a line into the history, unless it is blank. -/
def remember (line : String) (session : Session Memory) : Session Memory :=
  if trimmed line = "" then session
  else { session with history := session.history ++ [trimmed line] }

def complain (diagnostic : Option Failure) (session : Session Memory) : Session Memory :=
  match diagnostic with
  | none => session
  | some failure => session.withSystem (session.system.writeStderr (utf8 (failure.message ++ "\n")))

/-- Enters a line into the history and runs it with the shell's own streams, of which `stdout` says how
much the output stream takes. A line writes either itself or by a program, so its text may join that
stream when it is done. -/
def enterLine (line : String) (session : Session Memory) (stdout : Sink) :
    Except IoError Outcome × Session Memory :=
  let turn := (session.remember line).executeLine host line stdout
  let session := turn.session.withSystem (turn.session.system.writeStdout turn.sink.accepted)
  match turn.result with
  | .error cause => (.error cause, session)
  | .ok outcome => (.ok outcome, session.complain outcome.diagnostic)

/-- Enters a line into the history and runs it, where the output stream takes all. -/
def runLine (line : String) (session : Session Memory) : Except IoError Outcome × Session Memory :=
  session.enterLine host line {}

end Session

end LineShell
