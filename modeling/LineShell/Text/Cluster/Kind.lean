import LineShell.Text.Cluster.Bases
import LineShell.Text.Cluster.Marks
/-!
What a character is for the purpose of joining it to its neighbours.
-/

namespace LineShell.Text.Cluster

/-- The kinds of letters that Korean syllables are written with. -/
inductive Hangul
  | leading
  | vowel
  | trailing
  /-- A syllable without a trailing consonant. -/
  | open
  | closed
deriving DecidableEq, Repr

inductive Kind
  | carriageReturn
  | lineFeed
  | control
  | extender
  | joiner
  | spacingMark
  | opener
  | regionalIndicator
  | hangul (letter : Hangul)
  | pictograph
  | consonant
  | other
deriving DecidableEq, Repr

/-- The Hangul letter or syllable of a code point. Every 28th of the composed syllables is open. -/
def hangul? (code : Nat) : Option Hangul :=
  if Ranges.contains [(0x1100, 0x115F), (0xA960, 0xA97C)] code then some .leading
  else if Ranges.contains [(0x1160, 0x11A7), (0xD7B0, 0xD7C6), (0x16D63, 0x16D63), (0x16D67, 0x16D6A)] code then
    some .vowel
  else if Ranges.contains [(0x11A8, 0x11FF), (0xD7CB, 0xD7FB)] code then some .trailing
  else if Ranges.contains [(0xAC00, 0xD7A3)] code then
    some (if (code - 0xAC00) % 28 = 0 then .open else .closed)
  else none

def Kind.ofChar (c : Char) : Kind :=
  let code := c.toNat
  if code = 0x0D then .carriageReturn
  else if code = 0x0A then .lineFeed
  else if code = 0x200D then .joiner
  else if controls.contains code then .control
  else if extenders.contains code then .extender
  else if spacingMarks.contains code then .spacingMark
  else if openers.contains code then .opener
  else if Ranges.contains [(0x1F1E6, 0x1F1FF)] code then .regionalIndicator
  else if pictographs.contains code then .pictograph
  else if conjunctConsonants.contains code then .consonant
  else match hangul? code with
    | some letter => .hangul letter
    | none => .other

def isLinker (c : Char) : Bool :=
  conjunctLinkers.contains c.toNat

def nonJoiner : Char := '\u200c'

end LineShell.Text.Cluster
