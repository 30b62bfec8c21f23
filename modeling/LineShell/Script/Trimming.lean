import LineShell.Script.Draft
import LineShell.Script.Pattern
/-!
Taking an end or a start off a value. The value lies in a row of cells, with the pattern behind it, and a
character that stands for itself has a mark in front of it. A text that is looked at starts at a cell and
goes up to the next zero. Where there are marks, texts are looked at in a copy without them, which lies
behind the pattern. The copy ends where the first argument in the value does, and so texts for what is cut
further on come from the cells in front of the copy.
-/

namespace LineShell.Script

namespace Glyph

def mark : Char := '\x81'

def quoteMark : Char := '\x88'

def cells : Glyph → List Char
  | .plain c => [c]
  | .escaped c => [mark, c]
  | .quote => [quoteMark]

def isEscaped : Glyph → Bool
  | .escaped _ => true
  | _ => false

end Glyph

namespace Trimming

def textIn (cells : List Char) : List Char :=
  cells.takeWhile (· ≠ '\x00')

def textsIn (cells : List Char) : List (List Char) :=
  cells.foldr (fun c texts =>
    (if c = '\x00' then [] else c :: texts.head?.getD []) :: texts) []

/-- The cells of a pattern, with the zero at its end. What it takes up less than the glyphs it is made from
is left behind it. -/
def patternCells (pattern : List Char) (glyphs : List Glyph) : List Char :=
  pattern ++ '\x00' :: (glyphs.flatMap Glyph.cells ++ ['\x00']).drop (pattern.length + 1)

/-- A row of cells and the texts in it that are looked at. -/
structure Row where
  cells : List Char
  /-- The pattern, and the cell in which it starts. -/
  pattern : List Char
  patternStart : Nat
  /-- Where the value or its copy starts, and the cell behind it. -/
  start : Nat
  stop : Nat
deriving Repr

def Row.of (value patternGlyphs : List Glyph) : Row :=
  let valueCells := value.flatMap Glyph.cells
  let pattern := patternOf patternGlyphs
  let behind := patternCells pattern patternGlyphs
  let cells := valueCells ++ '\x00' :: behind
  let patternStart := valueCells.length + 1
  if (value.takeWhile (· ≠ .plain '\x00')).any (·.isEscaped) then
    let copy := textIn (value.filterMap (·.char?))
    { cells := cells ++ copy ++ ['\x00'], pattern, patternStart
      start := cells.length, stop := cells.length + copy.length }
  else { cells, pattern, patternStart, start := 0, stop := valueCells.length }

namespace Row

variable (row : Row)

/-- The text at the start, as it is where a zero is put into a cell. -/
def textBefore (cell : Nat) : List Char :=
  textIn (if row.start ≤ cell then (row.cells.drop row.start).take (cell - row.start)
    else row.cells.drop row.start)

def patternBefore (cell : Nat) : List Char :=
  if cell < row.patternStart then row.pattern else row.pattern.take (cell - row.patternStart)

/-- Whether the pattern fits the text that starts in a cell, or the text at the start up to there. -/
def fits (isFront : Bool) (texts : Array (List Char)) (cell : Nat) : Bool :=
  if isFront then Pattern.fits (row.patternBefore cell) (row.textBefore cell)
  else Pattern.fits row.pattern (texts[cell]?.getD [])

end Row

/-- The number of glyphs of a value before the place where it is cut, to lose an end or a start that a
pattern fits. Places are tried from the end on for the shortest end and the longest start, and otherwise
from the start on up to the end of the first argument. -/
def cutPlace? (isFront longest : Bool) (value pattern : List Glyph) : Option Nat :=
  let row := Row.of value pattern
  let texts := if isFront then #[] else (textsIn row.cells).toArray
  if isFront = longest then
    ((List.range (value.length + 1)).find? fun steps =>
      row.fits isFront texts (row.stop - steps)).map (value.length - ·)
  else
    let size := (textIn (row.cells.drop row.start)).length
    (List.range (size + 1)).find? fun steps => row.fits isFront texts (row.start + steps)

/-- What is left of a value that loses an end or a start which a pattern fits. -/
def trim (isFront longest : Bool) (value pattern : List Glyph) : List Glyph :=
  match cutPlace? isFront longest value pattern with
  | none => value
  | some place => if isFront then value.drop place else value.take place

end Trimming

end LineShell.Script
