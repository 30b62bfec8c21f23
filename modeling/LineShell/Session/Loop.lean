import LineShell.Session.Run
/-!
The loop of a session: a line is asked for, runs, and the next is asked for, until a line wants the
session to end or no line can be had any more.
-/

namespace LineShell

/-- What comes of asking for a line. -/
inductive Reading
  | line (text : String)
  | interrupted
  | endOfInput
  | failed (reason : String)
deriving DecidableEq, Repr

namespace Session

variable {Memory : Type} (host : Host Memory)

def prompt : String := "$ "

def inputExhausted : Failure :=
  .inputClosed "end of input"

def print (text : String) (session : Session Memory) : Session Memory :=
  session.withSystem (session.system.writeStdout (utf8 text))

/-- Runs lines until one of them ends the session, with `shown` written before each is read. The answer
is how the session ends, if it does. -/
def runAll (shown : String) (readings : List Reading) (session : Session Memory) :
    Option (Except Failure Unit) × Session Memory :=
  match readings with
  | [] => (none, session)
  | reading :: rest =>
      let session := session.print shown
      match reading with
      | .interrupted => runAll shown rest session
      | .endOfInput => (some (.error inputExhausted), session)
      | .failed reason => (some (.error (.inputClosed reason)), session)
      | .line text =>
          match session.runLine host text with
          | (.error cause, session) => (some (.error (.output none cause)), session)
          | (.ok _, session) =>
              if session.environment.shouldExit then (some (.ok ()), session)
              else runAll shown rest session

/-- Runs a whole session. Where no reading is left the input has ended. -/
def loop (shown : String) (readings : List Reading) (session : Session Memory) :
    Except Failure Unit × Session Memory :=
  match session.runAll host shown readings with
  | (some ending, session) => (ending, session)
  | (none, session) => (.error inputExhausted, session.print shown)

end Session

end LineShell
