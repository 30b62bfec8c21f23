import LineShell.Script.Message
/-!
The characters of a script, one after the other. A text may be all there, or come from a descriptor,
block by block; the texts of aliases are read in between.
-/

namespace LineShell.Script

def blockSize : Nat := 8191

/-- Reads a block; there is none at the end, or where nothing can be read. -/
def readBlock (descriptor count : Nat) : Action (Except Errno Bytes) := do
  let answer ← Action.await fun id machine =>
    match machine.read id descriptor count with
    | (.waiting, machine) => (none, machine)
    | (.done bytes, machine) => (some (.ok bytes), machine)
    | (.refused errno, machine) => (some (.error errno), machine)
  return answer

/-- The characters of a text up to the end of its first line, and what follows. -/
def splitLine (text : List Char) : List Char × List Char :=
  match text.dropWhile (· ≠ '\n') with
  | [] => (text, [])
  | _ :: rest => (text.takeWhile (· ≠ '\n') ++ ['\n'], rest)

/-- Gets the next line of a source; the answer tells whether there was one. -/
def nextLine : Action Bool := do
  let source := (← get).source
  match source.descriptor with
  | none => return false
  | some descriptor =>
      if source.isOver then return false
      else
        let ahead ←
          if source.ahead.isEmpty then
            match ← readBlock descriptor blockSize with
            | .ok bytes => pure (bytes.map fun byte => Char.ofNat byte.toNat)
            | .error _ => pure []
          else pure source.ahead
        if ahead.isEmpty then
          modify fun shell => { shell with source := { shell.source with isOver := true } }
          return false
        else
          let (line, ahead) := splitLine ahead
          let line := line.filter (· ≠ '\x00')
          modify fun shell => { shell with source := { shell.source with chars := line, ahead } }
          if (← get).has "verbose" then writeError (String.ofList line)
          return true

/-- Takes a character of the source at hand, if there is one before a line has to be got. The end of an
alias makes its name free as soon as another character is read. -/
def takeChar (shell : Shell) : Option Char × Shell :=
  match shell.source.insertions with
  | [] =>
      match shell.source.chars with
      | [] => (none, shell)
      | c :: chars => (some c, { shell with source := { shell.source with chars } })
  | top :: others =>
      match top.rest with
      | c :: rest =>
          (some c,
            { shell with
              source := { shell.source with insertions := { top with rest } :: others } })
      | [] => (none, shell)

def leaveAlias (shell : Shell) : Shell :=
  match shell.source.insertions with
  | [] => shell
  | top :: others =>
      { shell with
        source :=
          { shell.source with insertions := others, released := top.name :: top.held }
        reading :=
          { shell.reading with seeksAlias := shell.reading.seeksAlias || top.endsBlank } }

/-- Reads a character; there is none at the end. -/
def nextCharFrom (fuel : Nat) : Action (Option Char) :=
  match fuel with
  | 0 => return none
  | fuel + 1 => do
      match ← modifyGet takeChar with
      | some c => return some c
      | none => do
          let isInAlias := !(← get).source.insertions.isEmpty
          if isInAlias then
            modify leaveAlias
            nextCharFrom fuel
          else if ← nextLine then nextCharFrom fuel
          else return none

/-- Reads a character; there is none at the end. Lines without any character are passed over. -/
def nextChar : Action (Option Char) := do
  modify fun shell =>
    if shell.source.released.isEmpty && shell.source.successor.isNone then shell
    else { shell with source := { shell.source with released := [], successor := none } }
  nextCharFrom stepLimit

def unreadChar (c : Option Char) : Action Unit :=
  match c with
  | none => return
  | some c => modify fun shell => { shell with source := shell.source.unread c }

def countLine : Action Unit :=
  modify fun shell =>
    { shell with
      source := { shell.source with line := shell.source.line + 1 }
      reading := { shell.reading with owesPrompt := shell.reading.continuation.isSome } }

/-- Shows that a command goes on, where that is to be shown. -/
def payPrompt : Action Unit := do
  let reading := (← get).reading
  if reading.owesPrompt then
    modify fun shell => { shell with reading := { reading with owesPrompt := false } }
    writeError (reading.continuation.getD "")

def continueLine : Action Unit := do
  countLine
  payPrompt

def nextUnescapedFrom (fuel : Nat) : Action (Option Char) :=
  match fuel with
  | 0 => return none
  | fuel + 1 => do
      match ← nextChar with
      | some '\\' => do
          let depth := (← get).source.insertions.length
          match ← nextChar with
          | some '\n' => do
              continueLine
              nextUnescapedFrom fuel
          | c => do
              unreadChar c
              modify fun shell =>
                if shell.source.insertions.length < depth then
                  { shell with source := { shell.source with successor := c } }
                else shell
              return some '\\'
      | c => return c

def nextUnescaped : Action (Option Char) :=
  nextUnescapedFrom stepLimit

def pushSource (source : Source) : Action Unit :=
  modify fun shell => { shell with source, outer := shell.source :: shell.outer }

/-- Goes back to the text that was read before, and closes the file at hand. -/
def popSource : Action Unit := do
  let shell ← get
  match shell.outer with
  | [] => return
  | source :: outer => do
      if let some descriptor := shell.source.descriptor then
        if 0 < descriptor then Action.request fun id machine => ((), machine.close id descriptor)
      modify fun shell => { shell with source, outer }

/-- Goes back to the text that was read when there were so many others. -/
def unwindSources (fuel depth : Nat) : Action Unit :=
  match fuel with
  | 0 => return
  | fuel + 1 => do
      if depth < (← get).outer.length then
        popSource
        unwindSources fuel depth

def refuse {α : Type} (fault : SyntaxFault) : Action α := do
  modify fun shell => { shell with line := shell.source.line }
  fail s!"Syntax error: {fault.message}"

def refuseToken {α : Type} (expected : Option Token) : Action α := do
  refuse (.unexpected (← get).reading.last expected)

end LineShell.Script
