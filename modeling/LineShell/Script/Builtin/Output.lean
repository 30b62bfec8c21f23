import LineShell.FileSystem.Standard
import LineShell.Script.Condition
import LineShell.Script.Format
import LineShell.Script.Operand
import LineShell.Script.Redirection
/-!
The builtins that print texts, read lines and decide conditions.
-/

namespace LineShell.Script

def echo (operands : List String) : Action Nat := do
  print (String.ofList (echoed operands))
  return 0

def printFormat (operands : List String) : Action Nat := do
  match ← operandsOnly operands with
  | [] => fail "usage: printf format [arg ...]"
  | format :: operands => do
      let printed := formatted format operands
      for warning in printed.warnings do complain warning
      print printed.text
      match printed.fault with
      | some fault => fail fault
      | none => return if printed.warnings.isEmpty then 0 else 1

/-! ## Lines -/

/-- What comes of reading a byte. -/
inductive ByteRead
  | byte (c : Char)
  | ended

/-- Reads a byte of the input; a signal ends the wait for it. -/
def readByte : Action ByteRead := do
  let answer ← Action.await fun id machine =>
    match machine.read id 0 1 with
    | (.waiting, machine) =>
        let isSignalled := (machine.task? id).any fun task => !task.pending.isEmpty
        (if isSignalled then some [] else none, machine)
    | (.done bytes, machine) => (some bytes, machine)
    | (.refused _, machine) => (some [], machine)
  match answer with
  | [] => return .ended
  | byte :: _ => return .byte (Char.ofNat byte.toNat)

/-- Reads a line as a draft of which only the characters behind a backslash are not cut at. The answer tells
whether a line end closes the line. -/
def readLineFrom (fuel : Nat) (isRaw : Bool) (start : Nat) (draft : Draft) : Action (Draft × Bool) :=
  match fuel with
  | 0 => return (draft, false)
  | fuel + 1 => do
      let close (draft : Draft) : Draft := draft.note start draft.size false
      match ← readByte with
      | .ended => return (close draft, false)
      | .byte '\n' => return (close draft, true)
      | .byte '\x00' => readLineFrom fuel isRaw start draft
      | .byte c => do
          Action.pause
          if c = '\\' && !isRaw then
            let noted := close draft
            match ← readEscaped fuel with
            | none => return (noted, false)
            | some '\n' => readLineFrom fuel isRaw noted.size noted
            | some c => readLineFrom fuel isRaw (noted.size + 1) (noted.add [.plain c])
          else readLineFrom fuel isRaw start (draft.add [.plain c])
where
  readEscaped (fuel : Nat) : Action (Option Char) :=
    match fuel with
    | 0 => return none
    | fuel + 1 => do
        match ← readByte with
        | .ended => return none
        | .byte '\x00' => readEscaped fuel
        | .byte c => return some c

/-- Gives fields to variables; what is left over of these becomes empty. -/
def assignFields : List String → List (List Glyph) → Action Unit
  | [], _ => return
  | name :: names, [] => do
      setVariable name (some "") false
      assignFields names []
  | name :: names, field :: fields => do
      setVariable name (some (textOf field)) false
      assignFields names fields

def readVariables (operands : List String) : Action Nat := do
  let (options, names) ← takeOptions "r" "p" operands
  if names = [] then fail "arg count"
  let isRaw := options.any (·.1 = 'r')
  let (draft, isClosed) ← readLineFrom stepLimit isRaw 0 {}
  assignFields names (draft.fields (← get).separators (some names.length))
  return if isClosed then 0 else 1

/-! ## Conditions -/

def nodeHolds (operator : String) (node : Node) : Bool :=
  match operator, node with
  | "-h", .link _ | "-L", .link _ => true
  | "-h", .device (.descriptor _) | "-L", .device (.descriptor _) => true
  | "-p", .device (.descriptor _) => true
  | "-c", .device device => !device.isStream
  | "-f", .file _ _ | "-f", .interpreter | "-d", .directory => true
  | "-s", .file _ bytes => !bytes.isEmpty
  | "-s", .directory | "-s", .interpreter => true
  | "-x", .directory => true
  | "-x", node => node.isExecutable
  | "-u", .file mode _ => mode &&& 0o4000 ≠ 0
  | "-g", .file mode _ => mode &&& 0o2000 ≠ 0
  | "-k", .file mode _ => mode &&& 0o1000 ≠ 0
  | "-e", _ | "-r", _ | "-w", _ | "-O", _ | "-G", _ => true
  | _, _ => false

def probeOf (id : Nat) (machine : Kernel.Machine) : Condition.Probe where
  holds operator path :=
    match machine.task? id with
    | none => false
    | some task =>
        let path := Octets.toPath path
        let node := if operator = "-h" || operator = "-L"
          then (machine.filesOf id).lstat task.workingDir path
          else (machine.filesOf id).stat task.workingDir path
        node.toOption.any (nodeHolds operator)
  same left right := onPlaces left right fun left right => left = right
  newer left right := onPlaces left right fun left right =>
    FileSystem.isOld right && !FileSystem.isOld left
where
  onPlaces (left right : String) (related : Location → Location → Bool) : Bool :=
    match machine.task? id with
    | none => false
    | some task =>
        match (machine.filesOf id).locate task.workingDir (Octets.toPath left),
            (machine.filesOf id).locate task.workingDir (Octets.toPath right) with
        | .ok left, .ok right => related left right
        | _, _ => false

def test (words : List String) : Action Nat := do
  match ← Action.ask fun id machine => Condition.decide (probeOf id machine) words with
  | .error reason => fail reason
  | .ok holds => return if holds then 0 else 1

def bracketTest (words : List String) : Action Nat := do
  match words.getLast? with
  | some last => if last.startsWith "]" then test words.dropLast else fail "missing ]"
  | none => fail "missing ]"

end LineShell.Script
