import LineShell.Session.Basic
import LineShell.Sink
/-!
What the builtins do. A builtin first acts and makes up its text; only then is the text written, piece by
piece and up to the first that its output does not take.
-/

namespace LineShell

/-- What a builtin has to say, piece by piece, and the status it ends with. -/
structure Report where
  pieces : List String := []
  status : Int := 0
deriving DecidableEq, Repr

namespace Report

def text (report : Report) : String :=
  String.join report.pieces

/-- A sink takes a report as if it were one piece. -/
theorem writeAll_pieces (report : Report) (sink : Sink) :
    sink.writeAll (report.pieces.map utf8) = sink.write (utf8 report.text) := by
  rw [Sink.writeAll_eq_write, text, utf8_join]

/-- The operands on one line. A first operand `-n` is not printed and leaves the line open. -/
def ofEcho : List String → Report
  | "-n" :: operands => { pieces := [" ".intercalate operands] }
  | operands => { pieces := [" ".intercalate operands ++ "\n"] }

theorem ofEcho_status (operands : List String) : (ofEcho operands).status = 0 := by
  unfold ofEcho
  split <;> rfl

def ofPwd (environment : Environment) : Report :=
  { pieces := [environment.currentDir.text ++ "\n"] }

def add (report : Report) (piece : String) : Report :=
  { report with pieces := report.pieces ++ [piece] }

/-- Adds what is known of a name. One of which nothing is known shows in the status as well. -/
def describe (system : System) (environment : Environment) (report : Report) (name : String) : Report :=
  if (Builtin.ofName? name).isSome then report.add s!"{name} is a shell builtin\n"
  else match system.findCommand environment.searchPath environment.currentDir ⟨name⟩ with
    | some program => report.add s!"{name} is {program.text}\n"
    | none => { report.add s!"{name}: not found\n" with status := 1 }

def ofType (system : System) (environment : Environment) (names : List String) :
    Except Failure Report :=
  if names = [] then .error .missingOperand
  else .ok (names.foldl (describe system environment) {})

/-- The number of entries that `history` is asked for. -/
def historyCount : List String → Except Failure (Option Nat)
  | [] => .ok none
  | operand :: rest =>
      match Numeral.readCount operand.toList with
      | .error cause => .error (.invalidCount operand cause)
      | .ok count =>
          match rest with
          | [] => .ok (some count)
          | surplus :: _ => .error (.surplusOperand surplus)

def historyLine (number : Nat) (line : String) : String :=
  Numeral.rightAligned 5 number ++ "  " ++ line ++ "\n"

def ofHistory (history operands : List String) : Except Failure Report := do
  let count ← historyCount operands
  let skipped := match count with
    | none => 0
    | some n => history.length - n
  let pieces := (history.drop skipped).mapIdx fun i line => historyLine (skipped + i + 1) line
  return { pieces }

end Report

namespace Session

variable {Memory : Type} (host : Host Memory)

/-- The directory that `cd` is to go to, and the way its failures show it. -/
def cdTarget (environment : Environment) : List String → Except Failure (String × Path)
  | [] | "~" :: _ =>
      match environment.home with
      | none => .error .homeNotSet
      | some home => .ok (home.text, home)
  | operand :: _ => .ok (operand, ⟨operand⟩)

/-- The place that `cd` goes to. -/
def cdLocation (session : Session Memory) (shown : String) (target : Path) :
    Except Failure Location :=
  match session.system.canonicalize (session.environment.currentDir.join target) with
  | .error cause =>
      .error (if cause = .system .noEntry then .noSuchDirectory shown else .changeDirectory shown cause)
  | .ok location =>
      if session.system.files.isDirectory location then .ok location
      else .error (.notADirectory shown)

def cd (operands : List String) (session : Session Memory) :
    Except Failure Report × Session Memory :=
  match cdTarget session.environment operands with
  | .error failure => (.error failure, session)
  | .ok (shown, target) =>
      match session.cdLocation shown target with
      | .error failure => (.error failure, session)
      | .ok location =>
          let dir := location.path
          match host.changeDir dir session.world with
          | (.error cause, world) => (.error (.changeDirectory shown cause), { session with world })
          | (.ok (), world) =>
              let environment := { session.environment.set "PWD" dir.text with currentDir := dir }
              (.ok {}, { session with environment, world })

def exit (session : Session Memory) : Session Memory :=
  { session with environment := { session.environment with shouldExit := true } }

def perform (builtin : Builtin) (operands : List String) (session : Session Memory) :
    Except Failure Report × Session Memory :=
  match builtin with
  | .echo => (.ok (.ofEcho operands), session)
  | .cd => session.cd host operands
  | .pwd => (.ok (.ofPwd session.environment), session)
  | .exit => (.ok {}, session.exit)
  | .type => (Report.ofType session.system session.environment operands, session)
  | .history => (Report.ofHistory session.history operands, session)

end Session

namespace Builtin

def writeFailure (builtin : Builtin) (cause : IoError) : Failure :=
  match builtin with
  | .echo => .output (some "echo") cause
  | .pwd => .output (some "pwd") cause
  | _ => .output none cause

/-- Writes a builtin's text to a sink; `echo` makes sure that it has gone on from there. -/
def deliver (builtin : Builtin) (report : Report) (sink : Sink) : Outcome × Sink :=
  match sink.writeAll (report.pieces.map utf8) with
  | (.error cause, sink) => (.failed (builtin.writeFailure cause), sink)
  | (.ok (), sink) =>
      if builtin = .echo then
        match sink.flush with
        | .error cause => (.failed (builtin.writeFailure cause), sink)
        | .ok () => ({ status := report.status }, sink)
      else ({ status := report.status }, sink)

def deliverToFile (builtin : Builtin) (report : Report) (file : OpenFile) (system : System) :
    Outcome × System :=
  match system.write file (utf8 report.text) with
  | .error cause => (.failed (builtin.writeFailure cause), system)
  | .ok (_, system) => ({ status := report.status }, system)

end Builtin

end LineShell
