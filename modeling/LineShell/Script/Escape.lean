import LineShell.Script.Variable
/-!
Backslash escapes, as `echo` and `printf` of the script language write them.
-/

namespace LineShell.Script

/-- The byte of some octal digits; one that is too great wraps around. -/
def octalByte (digits : List Char) : Char :=
  Char.ofNat (digits.foldl (fun value c => value * 8 + (c.toNat - '0'.toNat)) 0 % 256)

def control? : Char → Option Char
  | 'a' => some '\x07'
  | 'b' => some '\x08'
  | 'e' => some '\x1b'
  | 't' => some '\t'
  | 'n' => some '\n'
  | 'v' => some '\x0b'
  | 'f' => some '\x0c'
  | 'r' => some '\r'
  | '\\' => some '\\'
  | _ => none

def octalDigits (text : List Char) : List Char :=
  (text.take 3).takeWhile isOctal

/-- The byte that the escape after a backslash stands for, and what follows it; without an escape
the backslash stands for itself. -/
def readEscape (text : List Char) : Char × List Char :=
  match text with
  | [] => ('\\', [])
  | c :: rest =>
      match control? c with
      | some byte => (byte, rest)
      | none =>
          if isOctal c then
            let digits := octalDigits text
            (octalByte digits, rest.drop (digits.length - 1))
          else ('\\', text)

theorem readEscape_length (text : List Char) : (readEscape text).2.length ≤ text.length := by
  unfold readEscape
  split
  · simp
  · split
    · simp
    · split
      · simp
        omega
      · simp

/-- A text with its escapes resolved behind what has been read of it, the last character first, and whether
`\c` asks for no more output. A zero after the backslash may start three octal digits more. -/
def unescapeFrom (read : List Char) (text : List Char) : List Char × Bool :=
  match text with
  | [] => (read.reverse, false)
  | '\\' :: 'c' :: _ => (read.reverse, true)
  | '\\' :: '0' :: rest =>
      let digits := octalDigits rest
      unescapeFrom (octalByte digits :: read) (rest.drop digits.length)
  | '\\' :: rest =>
      let escape := readEscape rest
      unescapeFrom (escape.1 :: read) escape.2
  | c :: rest => unescapeFrom (c :: read) rest
termination_by text.length
decreasing_by
  · simp; omega
  · have := readEscape_length rest
    simp
    omega
  · simp

def unescape (text : List Char) : List Char × Bool :=
  unescapeFrom [] text

/-- The output of `echo` for some operands: all on one line, up to a wish for no more. -/
def echoed : List String → List Char
  | "-n" :: operands => (unescape (" ".intercalate operands).toList).1
  | operands =>
      let (bytes, stop) := unescape (" ".intercalate operands).toList
      if stop then bytes else bytes ++ ['\n']

end LineShell.Script
