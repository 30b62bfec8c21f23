import LineShell.IoError
import LineShell.Text.Numeral
import LineShell.Text.WhiteSpace
/-!
What can go wrong with a line, by cause, and what the user is told.
-/

namespace LineShell

inductive Failure
  | missingOutputFile (operator : String)
  | noSuchDirectory (target : String)
  | notADirectory (target : String)
  | homeNotSet
  | changeDirectory (target : String) (cause : IoError)
  | missingOperand
  | openRedirect (target : String) (cause : IoError)
  | spawn (program : String) (cause : IoError)
  | inputClosed (reason : String)
  /-- The operand of `history` is no count. -/
  | invalidCount (operand : String) (cause : CountError)
  /-- An operand after the last that `history` takes. -/
  | surplusOperand (operand : String)
  /-- The output of a command could not be written. -/
  | output (command : Option String) (cause : IoError)
deriving DecidableEq, Repr

namespace Failure

/-- The message without the cause that it is due to. -/
def headline : Failure → String
  | missingOutputFile operator => s!"syntax error: missing output file after `{operator}`"
  | noSuchDirectory target => s!"cd: {target}: No such file or directory"
  | notADirectory target => s!"cd: {target}: Not a directory"
  | homeNotSet => "cd: HOME not set"
  | changeDirectory target _ => s!"cd: {target}"
  | missingOperand => "type: missing operand"
  | openRedirect target _ => target
  | spawn program _ => s!"{program}: failed to execute"
  | inputClosed reason => s!"input closed: {reason}"
  | invalidCount operand cause =>
      s!"history: Error parsing positional argument 'count' with value '{operand}': {cause.message}"
  | surplusOperand operand => "history: " ++ trimmedEnd s!"Unrecognized argument: {operand}"
  | output (some command) _ => command
  | output none cause => cause.message

/-- The error of the system that a failure is due to and that its headline leaves unsaid. -/
def cause? : Failure → Option IoError
  | changeDirectory _ cause => some cause
  | openRedirect _ cause => some cause
  | spawn _ cause => some cause
  | output (some _) cause => some cause
  | _ => none

def message (failure : Failure) : String :=
  match failure.cause? with
  | some cause => failure.headline ++ ": " ++ cause.message
  | none => failure.headline

end Failure

end LineShell
