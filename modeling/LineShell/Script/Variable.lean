import LineShell.Environment
import LineShell.Script.Word
/-!
The variables of a script: what sets them, hides them and gives them to programs.
-/

namespace LineShell.Script

def isBlank (c : Char) : Bool :=
  c = ' ' || '\t' ≤ c && c ≤ '\r'

def isOctal (c : Char) : Bool :=
  '0' ≤ c && c ≤ '7'

def hexDigit? (c : Char) : Option Nat :=
  if c.isDigit then some (c.toNat - '0'.toNat)
  else if 'a' ≤ c && c ≤ 'f' then some (c.toNat - 'a'.toNat + 10)
  else if 'A' ≤ c && c ≤ 'F' then some (c.toNat - 'A'.toNat + 10)
  else none

namespace Integer

/-- Digits of a base at the start of a text, added to the value of those before, and what follows. -/
def digits (base value : Nat) : List Char → Nat × List Char
  | [] => (value, [])
  | c :: rest =>
      match (hexDigit? c).filter (· < base) with
      | some digit => digits base (value * base + digit) rest
      | none => (value, c :: rest)

def startsWithDigit (base : Nat) (text : List Char) : Bool :=
  match text with
  | [] => false
  | c :: _ => (hexDigit? c).any (· < base)

/-- The number without a sign at the start of a text, with its base told by its first digits, and what
follows. -/
def unsigned (text : List Char) : Nat × List Char :=
  match text with
  | '0' :: x :: rest =>
      if (x = 'x' || x = 'X') && startsWithDigit 16 rest then digits 16 0 rest
      else digits 8 0 text
  | '0' :: _ => digits 8 0 text
  | text => digits 10 0 text

def largest : Nat := Nat.pow 2 63 - 1

/-- A number with a sign at the start of a text, and what follows. There may be none. -/
structure Reading where
  isNegative : Bool := false
  size : Nat
  isNone : Bool := false
  rest : List Char

namespace Reading

variable (reading : Reading)

def bound : Nat :=
  if reading.isNegative then largest + 1 else largest

def isTooLarge : Bool :=
  reading.bound < reading.size

/-- The number, or the one nearest to it that a word can hold. -/
def value : Int :=
  let size : Int := min reading.size reading.bound
  if reading.isNegative then -size else size

end Reading

/-- Reads a number, in base ten or in a base of its own. -/
def read (anyBase : Bool) (text : List Char) : Reading :=
  let start := text.dropWhile isBlank
  let (isNegative, digits) := match start with
    | '-' :: rest => (true, rest)
    | '+' :: rest => (false, rest)
    | rest => (false, rest)
  if !startsWithDigit 10 digits then { size := 0, isNone := true, rest := text }
  else
    let (size, rest) := if anyBase then unsigned digits else Integer.digits 10 0 digits
    { isNegative, size, rest }

/-- The number that a text spells; blank texts are zero in any base. -/
def ofText? (anyBase : Bool) (text : String) : Option Int :=
  let reading := read anyBase text.toList
  if reading.isTooLarge || reading.isNone && !anyBase then none
  else if reading.rest.all isBlank then some reading.value
  else none

end Integer

def anyNumber (text : String) : Action Int :=
  match Integer.ofText? true text with
  | some value => return value
  | none => fail s!"Illegal number: {text}"

/-- The number that an operand has to be: no less than zero and no more than a word can hold. -/
def operandNumber (operand : String) : Action Nat :=
  match Integer.ofText? false operand with
  | some (.ofNat number) =>
      if number < Nat.pow 2 31 then return number else fail s!"Illegal number: {operand}"
  | _ => fail s!"Illegal number: {operand}"

/-- Entries in the order of their names, with one of them put in. -/
def putNamed {α : Type} (name : String) (value : α) : List (String × α) → List (String × α)
  | [] => [(name, value)]
  | entry :: rest =>
      if entry.1 = name then (name, value) :: rest
      else if name < entry.1 then (name, value) :: entry :: rest
      else entry :: putNamed name value rest

def eraseNamed {α : Type} (name : String) (entries : List (String × α)) : List (String × α) :=
  entries.filter (·.1 ≠ name)

/-- The variables that stay known even without a value. -/
def lastingVariables : List String :=
  ["IFS", "MAIL", "MAILPATH", "OPTIND", "PATH", "PS1", "PS2", "PS4"]

namespace Shell

variable (shell : Shell)

def binding? (name : String) : Option Variable :=
  shell.bindings.lookup name

def value? (name : String) : Option String :=
  (shell.binding? name).bind (·.value)

def putVariable (name : String) (entry : Variable) : Shell :=
  { shell with bindings := putNamed name entry shell.bindings }

def isHidden (name : String) : Bool :=
  shell.hidden.any (·.any fun
    | .variable hidden _ => hidden = name
    | .options _ => false)

/-- Sets the value of a variable or takes it away, and may have programs see it. -/
def store (name : String) (value : Option String) (isExported : Bool) : Shell :=
  let isExported := isExported || shell.has "allexport"
  let old := (shell.binding? name).getD { value := none }
  let lasts := lastingVariables.contains name || shell.isHidden name
  if value.isNone && !isExported && !lasts then
    { shell with bindings := eraseNamed name shell.bindings }
  else shell.putVariable name { old with value, isExported := isExported || old.isExported }

/-- The variables that programs get to see, as the texts by which they get them. -/
def block : List String :=
  shell.bindings.filterMap fun (name, entry) =>
    if entry.isExported then entry.value.map (name ++ "=" ++ ·) else none

def separators : List Char :=
  ((shell.value? "IFS").getD " \t\n").toList

end Shell

def noteChange (name : String) (value : Option String) : Action Unit := do
  if name = "OPTIND" then
    let index ← operandNumber (value.getD "")
    modify fun shell =>
      { shell with cursor := { index := if index = 0 then 1 else index, offset := none } }
  if name = "PATH" then modify fun shell => { shell with tracked := [] }

def storeVariable (name : String) (value : Option String) (isExported : Bool) : Action Unit := do
  if ((← get).binding? name).any (·.isReadOnly) then fail s!"{name}: is read only"
  else
    if ((← get).binding? name).isSome || lastingVariables.contains name then noteChange name value
    modify fun shell => shell.store name value isExported

/-- Sets a variable that goes by the characters of a text before any equals sign, which have to be a
name. -/
def setVariable (text : String) (value : Option String) (isExported : Bool) : Action Unit := do
  let name := text.toList.takeWhile (· ≠ '=')
  if isName name then storeVariable (String.ofList name) value isExported
  else fail (String.ofList name ++ ": bad variable name")

/-- The name before the first equals sign of a text, and the value behind it, if there is one. -/
def splitAssignment (text : String) : String × Option String :=
  let chars := text.toList
  let name := String.ofList (chars.takeWhile (· ≠ '='))
  match chars.dropWhile (· ≠ '=') with
  | [] => (name, none)
  | _ :: value => (name, some (String.ofList value))

/-- Makes a variable that of the function at hand, with the value that a text may give it. A dash stands
for the options. -/
def hideVariable (text : String) (isExported : Bool) : Action Unit := do
  let hide (hidden : Hidden) : Action Unit :=
    modify fun shell =>
      match shell.hidden with
      | [] => shell
      | top :: others => { shell with hidden := (hidden :: top) :: others }
  if text = "-" then hide (.options (← get).options)
  else
    let (name, value) := splitAssignment text
    let old := (← get).binding? name
    match old, value with
    | none, none => do
        if !isName name.toList then setVariable name none isExported
        hide (.variable name none)
        modify fun shell => shell.store name none isExported
    | none, some value => do
        hide (.variable name none)
        storeVariable name (some value) isExported
    | some old, some value => do
        hide (.variable name (some old))
        storeVariable name (some value) isExported
    | some old, none => hide (.variable name (some old))

def restoreHidden (hidden : Hidden) : Action Unit := do
  match hidden with
  | .options options => modify fun shell => { shell with options }
  | .variable name none => do
      modify fun shell =>
        { shell with
          bindings := shell.bindings.map fun entry =>
            if entry.1 = name then (name, { entry.2 with isReadOnly := false }) else entry }
      setVariable name none false
  | .variable name (some old) => do
      noteChange name old.value
      modify fun shell => shell.putVariable name old

/-- Brings back what has been hidden since there were so many levels. -/
def unwindHidden (fuel depth : Nat) : Action Unit :=
  match fuel with
  | 0 => return
  | fuel + 1 => do
      match (← get).hidden with
      | [] => return
      | top :: others =>
          if others.length < depth then return
          else
            modify fun shell => { shell with hidden := others }
            for hidden in top do restoreHidden hidden
            unwindHidden fuel depth

/-- A value in quotes, so that it reads back as one word. -/
def quoted (value : String) : String :=
  String.ofList (pieces (value.length + 1) value.toList)
where
  /-- Single quotes around what has none, and double quotes around those. -/
  pieces (fuel : Nat) (text : List Char) : List Char :=
    match fuel with
    | 0 => []
    | fuel + 1 =>
        let start := '\'' :: text.takeWhile (· ≠ '\'') ++ ['\'']
        match text.dropWhile (· ≠ '\'') with
        | [] => start
        | rest =>
            let quotes := '"' :: rest.takeWhile (· = '\'') ++ ['"']
            match rest.dropWhile (· = '\'') with
            | [] => start ++ quotes
            | rest => start ++ quotes ++ pieces fuel rest

def listVariables (start : String) (isListed : Variable → Bool) : Action Unit := do
  for (name, entry) in (← get).bindings do
    if isListed entry then
      let value := (entry.value.map fun value => "=" ++ quoted value).getD ""
      print s!"{start}{name}{value}\n"

end LineShell.Script
