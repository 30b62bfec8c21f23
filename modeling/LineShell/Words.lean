/-!
A line cut into words. The machine reads one character at a time and knows the next one; spaces
outside quotes end a word, quotes and backslashes only say how to read what stands beside them.
-/

namespace LineShell.Words

/-- What the characters read so far have left open. -/
structure Quoting where
  inDouble : Bool := false
  inSingle : Bool := false
  escaped : Bool := false
deriving DecidableEq, Repr

def Quoting.quoted (quoting : Quoting) : Bool :=
  quoting.inDouble || quoting.inSingle

structure Machine where
  quoting : Quoting := {}
  pending : List Char := []
  finished : List (List Char) := []
deriving DecidableEq, Repr

namespace Machine

variable (machine : Machine)

def buffer : List Char := machine.pending.reverse

/-- The words finished so far. -/
def emitted : List (List Char) := machine.finished.reverse

def push (c : Char) : Machine :=
  { machine with pending := c :: machine.pending }

/-- Ends the word being read; an empty one leaves no trace. -/
def flush : Machine :=
  match machine.pending with
  | [] => machine
  | _ :: _ => { machine with pending := [], finished := machine.buffer :: machine.finished }

def escapable (c : Char) : Bool :=
  c = '\\' || c = '$' || c = '"' || c = '\n'

def backslash (next : Option Char) : Machine :=
  if machine.quoting.inSingle then machine.push '\\'
  else if machine.quoting.inDouble then
    if next.any escapable then { machine with quoting := { machine.quoting with escaped := true } }
    else machine.push '\\'
  else { machine with quoting := { machine.quoting with escaped := true } }

/-- Reads one character, before which `next` is already in sight. -/
def step (c : Char) (next : Option Char) : Machine :=
  if machine.quoting.escaped then
    { machine.push c with quoting := { machine.quoting with escaped := false } }
  else if c = '\\' then machine.backslash next
  else if c = '"' && !machine.quoting.inSingle then
    { machine with quoting := { machine.quoting with inDouble := !machine.quoting.inDouble } }
  else if c = '\'' && !machine.quoting.inDouble then
    { machine with quoting := { machine.quoting with inSingle := !machine.quoting.inSingle } }
  else if c = ' ' && !machine.quoting.quoted then machine.flush
  else machine.push c

/-- Reads a stretch of the line, up to where `rest` follows. -/
def read (machine : Machine) (stretch rest : List Char) : Machine :=
  match stretch with
  | [] => machine
  | c :: more => (machine.step c (more ++ rest).head?).read more rest

theorem read_append (first second rest : List Char) :
    machine.read (first ++ second) rest = (machine.read first (second ++ rest)).read second rest := by
  induction first generalizing machine with
  | nil => rfl
  | cons c more ih => simp [read, ih]

end Machine

/-- The words of a line. Quotes left open and a last lone backslash end with the line. -/
def ofChars (line : List Char) : List (List Char) :=
  ((Machine.read {} line []).flush).emitted

def ofLine (line : String) : List String :=
  (ofChars line.toList).map String.ofList

end LineShell.Words
