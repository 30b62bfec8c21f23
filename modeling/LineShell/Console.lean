import LineShell.Session.Loop
import LineShell.Text.Cluster.Basic
/-!
A whole session on an input given as bytes: the input is cut into lines, and what the session ends with
becomes an exit code and a last message.
-/

namespace LineShell.Console

/-- Puts a byte before lines: in front of the first of them, or, if it is a line feed, as a line that
ends there. -/
def consByte (byte : UInt8) : List Bytes → List Bytes
  | [] => [[byte]]
  | line :: others => if byte = 10 then [byte] :: line :: others else (byte :: line) :: others

/-- The bytes of an input line by line. Every line keeps the line feed that ends it, which only the
last line may lack. -/
def byteLines (input : Bytes) : List Bytes :=
  input.foldr consByte []

theorem flatten_consByte (byte : UInt8) (lines : List Bytes) :
    (consByte byte lines).flatten = byte :: lines.flatten := by
  cases lines with
  | nil => rfl
  | cons line others => by_cases feed : byte = 10 <;> simp [consByte, feed]

theorem flatten_byteLines (input : Bytes) : (byteLines input).flatten = input := by
  induction input with
  | nil => rfl
  | cons byte rest ih =>
      rw [byteLines, List.foldr_cons, flatten_consByte]
      exact congrArg (byte :: ·) ih

/-- A line without its end: a line feed, or a carriage return and a line feed. -/
def withoutLineEnd (line : List Char) : List Char :=
  match line.reverse with
  | '\n' :: '\r' :: start => start.reverse
  | '\n' :: start => start.reverse
  | _ => line

/-- A text, its last character first, without so many of its last bytes. -/
def dropBytes (size : Nat) : List Char → List Char
  | [] => []
  | c :: rest => if c.utf8Size ≤ size then dropBytes (size - c.utf8Size) rest else c :: rest

/-- A line as far as it has been edited, both parts with the last first. -/
structure Edited where
  text : List Char := []
  /-- The sizes of the clusters that a backspace may yet take away, each kept in one byte. -/
  sizes : List UInt8 := []
deriving DecidableEq, Repr

namespace Edited

variable (edited : Edited)

def add (cluster : List Char) : Edited :=
  { text := cluster.reverse ++ edited.text
    sizes := UInt8.ofNat (String.ofList cluster).utf8ByteSize :: edited.sizes }

def erase : Edited :=
  match edited.sizes with
  | [] => edited
  | size :: sizes => { text := dropBytes size.toNat edited.text, sizes }

def read (cluster : List Char) : Edited :=
  if cluster = ['\x08'] then edited.erase else edited.add cluster

end Edited

def withoutBackspaces (line : List Char) : List Char :=
  ((Text.Cluster.ofChars line).foldl Edited.read {}).text.reverse

def reading (line : Bytes) : Reading :=
  match ofUtf8? line with
  | none => .failed "stream did not contain valid UTF-8"
  | some text => .line (String.ofList (withoutBackspaces (withoutLineEnd text.toList)))

def isComplete (line : Bytes) : Bool :=
  line.getLast? = some 10

def plainTerminals : List String := ["dumb", "cons25", "emacs"]

/-- What is shown where a line is read: the prompt on a plain terminal, otherwise nothing. -/
def shownPrompt (block : List String) : String :=
  let isPlain (terminal : String) : Bool :=
    plainTerminals.contains (String.ofList (terminal.toList.map Char.toLower))
  if (Variables.textOf? block "TERM").any isPlain then Session.prompt else ""

/-- A session that takes over the variables of its process, and the directory it works in. -/
def session {Memory : Type} (block : List String) (world : World Memory) : Session Memory :=
  { environment :=
      { «variables» := Variables.ofBlock block, currentDir := world.system.workingDir.path }
    world }

def blockSize : Nat := 8192

/-- Takes what waits at the input stream, up to a block of it. -/
def takeInput {Memory : Type} (session : Session Memory) : Bytes × Session Memory :=
  let system := session.system
  let waiting := system.stdin.getD []
  let left := system.stdin.map fun _ => waiting.drop blockSize
  (waiting.take blockSize, session.withSystem { system with stdin := left })

def prepend (held : Bytes) : List Bytes → List Bytes
  | [] => [held]
  | line :: others => (held ++ line) :: others

def roundLimit : Nat := Nat.pow 2 40

/-- Runs the lines of an input, of which the start of a line has been read already. Only when there is no
whole line left, more is taken from the input stream; programs may have read from it or put something there
by then. The input has ended where nothing waits, and then what is held is a line too. -/
def converse {Memory : Type} (host : Host Memory) (shown : String) (fuel : Nat) (held : Bytes)
    (session : Session Memory) : Except Failure Unit × Session Memory :=
  match fuel with
  | 0 => session.loop host shown []
  | fuel + 1 =>
      match takeInput session, held with
      | ([], session), [] => session.loop host shown []
      | (waiting, session), held =>
          let isEnd := waiting.isEmpty
          let (whole, rest) := (prepend held (byteLines waiting)).span (isEnd || isComplete ·)
          match session.runAll host shown (whole.map reading) with
          | (some ending, session) => (ending, session)
          | (none, session) => converse host shown fuel rest.flatten session

/-- The exit code of the shell's process by the way its session has ended, and what is left once a
failure has been reported. -/
def conclude {Memory : Type} : Except Failure Unit × Session Memory → Nat × Session Memory
  | (.ok (), session) => (0, session)
  | (.error failure, session) => (1, session.complain (some failure))

/-- Runs the shell as a process with variables and an input, up to where it ends; the answer is the exit
code and what is left. -/
def run {Memory : Type} (host : Host Memory) (block : List String) (input : Bytes)
    (world : World Memory) : Nat × Session Memory :=
  let world := { world with system := { world.system with stdin := some input } }
  conclude (converse host (shownPrompt block) roundLimit [] (session block world))

end LineShell.Console
