import LineShell.Script.Lookup
import LineShell.Script.Operand
/-!
The builtins that have to do with what names stand for.
-/

namespace LineShell.Script

/-! ## The order of names -/

/-- The row in which a name is listed, of so many. -/
def rowOf (rows : Nat) (name : String) : Nat :=
  let chars := name.toList
  let sum := chars.foldl (fun sum c => sum + c.toNat) ((chars.head?.map (16 * ·.toNat)).getD 0)
  (sum % Nat.pow 2 15) % rows

/-- Entries row by row, and within a row as they have come. -/
def inRows {α : Type} (rows : Nat) (entries : List (String × α)) : List (String × α) :=
  (List.range rows).flatMap fun row => entries.filter fun entry => rowOf rows entry.1 = row

def aliasRows : Nat := 39

def commandRows : Nat := 31

/-! ## Aliases -/

def showAlias (name value : String) : Action Unit :=
  print s!"{name}={quoted value}\n"

/-- The name and the text of an alias that an operand sets. The first character belongs to the name,
whatever it is. -/
def aliasOf? (operand : String) : Option (String × String) :=
  match operand.toList with
  | [] => none
  | first :: rest =>
      match rest.dropWhile (· ≠ '=') with
      | [] => none
      | _ :: value =>
          some (String.ofList (first :: rest.takeWhile (· ≠ '=')), String.ofList value)

def setAlias (name value : String) : Action Unit :=
  modify fun shell =>
    { shell with aliases :=
        if (shell.aliases.lookup name).isSome then
          shell.aliases.map fun entry => if entry.1 = name then (name, value) else entry
        else shell.aliases ++ [(name, value)] }

def setAliases (operands : List String) : Action Nat := do
  if operands = [] then
    for (name, value) in inRows aliasRows (← get).aliases do showAlias name value
    return 0
  else
    let mut status := 0
    for operand in operands do
      match aliasOf? operand with
      | some (name, value) => setAlias name value
      | none =>
          match (← get).aliases.lookup operand with
          | some value => showAlias operand value
          | none => do
              writeError s!"alias: {operand} not found\n"
              status := 1
    return status

def dropAliases (operands : List String) : Action Nat := do
  match ← nextOption ['a'] [] [] operands with
  | .option _ _ _ _ => do
      modify fun shell => { shell with aliases := [] }
      return 0
  | .ended operands => do
      let mut status := 0
      for name in operands do
        if ((← get).aliases.lookup name).isSome then
          modify fun shell => { shell with aliases := eraseNamed name shell.aliases }
        else
          writeError s!"unalias: {name} not found\n"
          status := 1
      return status

/-! ## Commands -/

def pathAt (search name : String) (index : Nat) : String :=
  ((candidates search name)[index]?).getD name

def trackCommands (operands : List String) : Action Nat := do
  match ← takeOptions "r" "" operands with
  | (_ :: _, _) => do
      modify fun shell => { shell with tracked := [] }
      return 0
  | ([], []) => do
      let shell ← get
      for (name, tracked) in inRows commandRows shell.tracked do
        let mark := if tracked.isStale then "*" else ""
        print (pathAt shell.searchPath name tracked.index ++ mark ++ "\n")
      return 0
  | ([], operands) => do
      let mut status := 0
      for name in operands do
        modify fun shell => { shell with tracked := eraseNamed name shell.tracked }
        if let .unknown ← findCommand { complains := true } name then status := 1
      return status

/-- Tells what a name stands for, at length or in brief. -/
def describe (isLong : Bool) (path : Option String) (name : String) : Action Nat := do
  let shell ← get
  let tell (long brief : String) : Action Nat := do
    print (if isLong then name ++ long ++ "\n" else brief ++ "\n")
    return 0
  if (Keyword.ofText? name).isSome then tell " is a shell keyword" name
  else
    match shell.aliases.lookup name with
    | some value =>
        if isLong then tell (" is an alias for " ++ value) ""
        else
          print "alias "
          showAlias name value
          return 0
    | none =>
        let tracked := if path.isNone then shell.tracked.lookup name else none
        let found ← match tracked with
          | some tracked => pure (Command.program (some tracked.index))
          | none => findCommand { path, checksPaths := true } name
        match found with
        | .function _ => tell " is a shell function" name
        | .builtin builtin =>
            let special := if specialBuiltins.contains builtin then "special " else ""
            tell s!" is a {special}shell builtin" name
        | .program index =>
            let at? := match index with
              | none => name
              | some index => pathAt (path.getD shell.searchPath) name index
            let mark := if tracked.isSome then " a tracked alias for" else ""
            tell (s!" is{mark} " ++ at?) at?
        | .unknown => do
            if isLong then print (name ++ ": not found\n")
            return 127

def describeAll (names : List String) : Action Nat := do
  let mut status := 0
  for name in names do
    let each ← describe true none name
    status := status ||| each
  return status

/-- What `command` does where it runs nothing: it tells what a name stands for. -/
def describeOperand (operands : List String) : Action Nat := do
  let (options, operands) ← takeOptions "pvV" "" operands
  let letters := options.map (·.1)
  match operands with
  | [] => return 0
  | name :: _ =>
      if letters.contains 'v' || letters.contains 'V' then
        describe (letters.contains 'V')
          (if letters.contains 'p' then some standardSearchPath else none) name
      else return 0

end LineShell.Script
