import LineShell.Script.Message
/-!
The options at the start of the operands of a builtin.
-/

namespace LineShell.Script

/-- What comes next among some operands. -/
inductive OptionStep
  /-- No more options: the operands that are left. -/
  | ended (operands : List String)
  | option (letter : Char) (argument : Option String) (letters : List Char) (operands : List String)

/-- Takes the next option, a letter of those that are allowed; some have an argument. The letters that are
left of an operand come first. -/
def nextOption (allowed withArgument : List Char) (letters : List Char) (operands : List String) :
    Action OptionStep := do
  let (letters, operands) := match letters, operands with
    | [], operand :: rest =>
        match operand.toList with
        | ['-', '-'] => ([], rest)
        | '-' :: letter :: letters => (letter :: letters, rest)
        | _ => ([], operands)
    | letters, operands => (letters, operands)
  match letters with
  | [] => return .ended operands
  | letter :: letters =>
      if withArgument.contains letter then
        match letters, operands with
        | [], [] => fail s!"No arg for -{letter} option"
        | [], argument :: rest => return .option letter (some argument) [] rest
        | letters, rest => return .option letter (some (String.ofList letters)) [] rest
      else if allowed.contains letter then return .option letter none letters operands
      else fail s!"Illegal option -{letter}"

/-- Takes the options that are allowed, each with its argument if it has one; the answer is these and the
operands behind them. -/
def takeOptionsFrom (fuel : Nat) (allowed withArgument letters : List Char)
    (operands : List String) : Action (List (Char × Option String) × List String) :=
  match fuel with
  | 0 => return ([], operands)
  | fuel + 1 => do
      match ← nextOption allowed withArgument letters operands with
      | .ended operands => return ([], operands)
      | .option letter argument letters operands => do
          let (others, operands) ← takeOptionsFrom fuel allowed withArgument letters operands
          return ((letter, argument) :: others, operands)

def takeOptions (allowed withArgument : String) (operands : List String) :
    Action (List (Char × Option String) × List String) :=
  let size := operands.foldl (fun size operand => size + operand.length + 1) 1
  takeOptionsFrom size allowed.toList withArgument.toList [] operands

/-- The operands of a builtin that has no options. -/
def operandsOnly (operands : List String) : Action (List String) := do
  return (← takeOptions "" "" operands).2

end LineShell.Script
