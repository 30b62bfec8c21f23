import LineShell.Script.Builtin.Process
import LineShell.Script.Setting
/-!
The builtins that set variables, arguments and options.
-/

namespace LineShell.Script

/-- Has variables get a property, with values where the operands say so. Without operands all that have it
are listed. -/
def declare (command : String) (isExported : Bool) (has : Variable → Bool)
    (mark : Variable → Variable) (operands : List String) : Action Nat := do
  let list : Action Nat := do
    listVariables (command ++ " ") has
    return 0
  match ← nextOption ['p'] [] [] operands with
  | .option _ _ _ _ | .ended [] => list
  | .ended operands =>
    for operand in operands do
      let (name, value) := splitAssignment operand
      match value, (← get).binding? name with
      | none, some old => modify (·.putVariable name (mark old))
      | value, _ => do
          setVariable name value isExported
          let entry := ((← get).binding? name).getD { value := none }
          modify (·.putVariable name (mark entry))
    return 0

def exportVariables : List String → Action Nat :=
  declare "export" true (·.isExported) fun entry => { entry with isExported := true }

def protectVariables : List String → Action Nat :=
  declare "readonly" false (·.isReadOnly) fun entry => { entry with isReadOnly := true }

def hideVariables (operands : List String) : Action Nat := do
  if (← get).hidden.isEmpty then fail "not in a function"
  else
    for operand in operands do hideVariable operand false
    return 0

def unsetNames (operands : List String) : Action Nat := do
  let (options, names) ← takeOptions "fv" "" operands
  let isFunction := (options.getLast?.map (·.1)) = some 'f'
  for name in names do
    if isFunction then
      modify fun shell => { shell with functions := shell.functions.filter (·.1 ≠ name) }
    else setVariable name none false
  return 0

/-! ## Arguments and options -/

def setArguments (arguments : List String) : Action Unit :=
  modify fun shell => { shell with arguments, cursor := {} }

/-- Sets the options of some letters; each letter that asks for a name takes it from the operands that
follow. The letters that only have a meaning for a script that starts are those of `isStart`. -/
def setLetters (isStart isOn : Bool) (letters : List Char) (rest : List String) :
    Action (List String) :=
  match letters, rest with
  | [], rest => return rest
  | 'o' :: letters, name :: rest => do
      setNamed name isOn
      setLetters isStart isOn letters rest
  | 'o' :: letters, [] => do
      listOptions isOn
      setLetters isStart isOn letters []
  | letter :: letters, rest => do
      if !(isStart && (letter = 'c' || letter = 'l')) then setLetter letter isOn
      setLetters isStart isOn letters rest

/-- Sets the options at the start of some operands; the answer is the operands after them. -/
def setOptions (fuel : Nat) (operands : List String) : Action (List String) :=
  match fuel, operands with
  | fuel + 1, operand :: rest =>
      match operand.toList with
      | ['-', '-'] => do
          if rest = [] then setArguments []
          return rest
      | ['-'] => do
          modify fun shell => (shell.setOption "xtrace" false).setOption "verbose" false
          return rest
      | '-' :: letters => do setOptions fuel (← setLetters false true letters rest)
      | '+' :: letters => do setOptions fuel (← setLetters false false letters rest)
      | _ => return operands
  | _, _ => return operands

/-- Complains that processes cannot be controlled, where the options ask for it. -/
def refuseControl : Action Unit := do
  if (← get).has "monitor" then
    complain "can't access tty; job control turned off"
    modify (·.setOption "monitor" false)

def setAll (operands : List String) : Action Nat := do
  if operands = [] then
    listVariables "" (·.value.isSome)
    return 0
  else
    let wasInteractive := (← get).has "interactive"
    let arguments ← setOptions operands.length operands
    if (← get).has "interactive" ≠ wasInteractive then arrangeTerminalSignals
    refuseControl
    if arguments ≠ [] then setArguments arguments
    return 0

def shiftArguments (operands : List String) : Action Nat := do
  let count ← match operands with
    | [] => pure 1
    | operand :: _ => operandNumber operand
  if (← get).arguments.length < count then fail "can't shift that many"
  else
    modify fun shell => { shell with arguments := shell.arguments.drop count, cursor := {} }
    return 0

/-! ## Options of the script -/

/-- Looks for the next option letter among some words: the letters left of the word at hand, and the number
of the next word. -/
def seekOption (words : List String) (cursor : OptionCursor) : Option (List Char × Nat) :=
  let left : List Char :=
    match cursor.offset with
    | some offset =>
        if cursor.index ≤ 1 then [] else ((words[cursor.index - 2]?).getD "").toList.drop offset
    | none => []
  if left ≠ [] then some (left, cursor.index)
  else
    match (words[cursor.index - 1]?).map String.toList with
    | some ('-' :: letter :: letters) => some (letter :: letters, cursor.index + 1)
    | _ => none

/-- What getting an option comes to. -/
structure Gotten where
  letter : Char
  index : Nat
  /-- What is left of the word at hand, if that is not done. -/
  left : Option (List Char) := none
  isOver : Bool := false

/-- Gets the next option among some words, which a text allows; a colon behind a letter asks for an
argument, and one in front has the script tell of faults itself. -/
def getOption (allowed : List Char) (words : List String) (cursor : OptionCursor) : Action Gotten := do
  let isQuiet := allowed.head? = some ':'
  let setArgument (value : Option String) : Action Unit := setVariable "OPTARG" value false
  let refuse (letter : Char) (index : Nat) (left : Option (List Char)) (text : String) (shown : Char) :
      Action Gotten := do
    if isQuiet then
      setArgument (some letter.toString)
      return { letter := shown, index, left }
    else
      writeError text
      setArgument none
      return { letter := '?', index, left }
  match seekOption words cursor with
  | none => return { letter := '?', index := cursor.index, isOver := true }
  | some ([], index) => return { letter := '?', index, isOver := true }
  | some (letter :: left, index) =>
      let isFresh := cursor.offset.isNone || index ≠ cursor.index
      if isFresh && letter = '-' && left = [] then return { letter := '?', index, isOver := true }
      else match afterLetter letter allowed with
      | none => refuse letter index (some left) s!"Illegal option -{letter}\n" '?'
      | some false => do
          setArgument (some "")
          return { letter, index, left := some left }
      | some true =>
          match left, words[index - 1]? with
          | [], none => refuse letter index none s!"No arg for -{letter} option\n" ':'
          | [], some argument => do
              setArgument (some argument)
              return { letter, index := index + 1 }
          | left, _ => do
              setArgument (some (String.ofList left))
              return { letter, index }
where
  afterLetter (letter : Char) : List Char → Option Bool
    | [] => none
    | c :: rest =>
        if c = letter then some (rest.head? = some ':')
        else match rest with
          | ':' :: rest => afterLetter letter rest
          | rest => afterLetter letter rest

def getOptions (operands : List String) : Action Nat := do
  match operands with
  | allowed :: name :: words => do
      let shell ← get
      let words := if words = [] then shell.arguments else words
      let cursor := if words.length + 1 < shell.cursor.index then {} else shell.cursor
      let gotten ← getOption allowed.toList words cursor
      modify fun shell => shell.store "OPTIND" (some (toString gotten.index)) false
      setVariable name (some gotten.letter.toString) false
      let word := (words[gotten.index - 2]?).getD ""
      let offset := gotten.left.map (word.length - ·.length)
      modify fun shell => { shell with cursor := { index := gotten.index, offset } }
      return if gotten.isOver then 1 else 0
  | _ => fail "Usage: getopts optstring var [arg...]"

end LineShell.Script
