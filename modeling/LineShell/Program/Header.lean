import LineShell.Text.Octets
/-!
The header of a script: a first line that names the program which is to read the script. Only the
start of the file counts, and within it only what stands before a zero byte.
-/

namespace LineShell.Program

structure Header where
  interpreter : Bytes
  /-- What the program is given before the script's own path. -/
  operand : Option Bytes
deriving DecidableEq, Repr

namespace Header

/-- The bytes at the start of a file in which a header is looked for. -/
def window : Nat := 256

def isBlank (byte : UInt8) : Bool :=
  byte = 32 || byte = 9

/-- Bytes without the blanks at their end. -/
def trimmedEnd (bytes : Bytes) : Bytes :=
  (bytes.reverse.dropWhile isBlank).reverse

/-- The header on a line that starts with no blank. All after the blanks that follow the first word is
one operand. -/
def ofLine (line : Bytes) : Header :=
  let rest := line.dropWhile (!isBlank ·)
  { interpreter := line.takeWhile (!isBlank ·)
    operand := if rest = [] then none else some (rest.dropWhile isBlank) }

/-- The header on a line whose outer blanks do not count; a line of blanks holds none. -/
def ofPaddedLine? (line : Bytes) : Option Header :=
  let line := trimmedEnd (line.dropWhile isBlank)
  if line = [] then none else some (ofLine line)

/-- The header on a line that has no end within the window. A line that reaches the last byte of the
window may go on behind it: it counts if its first word ends within the window, and loses that byte. A
line that ends with the file keeps the blanks at its end. -/
def ofOpenLine? (line : Bytes) : Option Header :=
  let room := window - 2
  if line.length + 1 < room then some (ofLine (line.dropWhile isBlank))
  else if line.length = room ∧ !(line.dropWhile isBlank).any isBlank then none
  else ofPaddedLine? (line.take (room - 1))

/-- The header of a file; a file without one is no script. -/
def ofBytes? (bytes : Bytes) : Option Header :=
  match bytes.take window with
  | 35 :: 33 :: rest =>
      let text := rest.takeWhile (· ≠ 0)
      if text.contains 10 then ofPaddedLine? (text.takeWhile (· ≠ 10)) else ofOpenLine? text
  | _ => none

end Header

end LineShell.Program
