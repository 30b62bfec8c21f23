import LineShell.Script.Variable
/-!
Drafts: words as far as they have been expanded. A draft remembers the stretches that came from values and
substitutions, because these are cut into fields.
-/

namespace LineShell.Script

namespace Glyph

/-- The character of a glyph; quotes have none. -/
def char? : Glyph → Option Char
  | .plain c | .escaped c => some c
  | .quote => none

end Glyph

/-- How the parts of a word are expanded. -/
structure Manner where
  /-- The word is to be cut into fields, and these are to be matched against files. -/
  full : Bool := false
  tilde : Bool := false
  tildes : Bool := false
  pastEquals : Bool := false
  pattern : Bool := false
  inner : Bool := false
  quoted : Bool := false
  discarded : Bool := false

namespace Manner

def keepsMarks (manner : Manner) : Bool :=
  manner.full || manner.pattern

/-- The glyph of a character that comes out of a parameter or a substitution. -/
def glyph (manner : Manner) (c : Char) : Glyph :=
  let isEscaped := isControl c || manner.quoted && (isPatternChar c || c = '\\')
  if manner.keepsMarks && isEscaped then .escaped c else .plain c

end Manner

namespace Draft

variable (draft : Draft)

def size : Nat :=
  draft.glyphs.size

def add (glyphs : List Glyph) : Draft :=
  { draft with glyphs := glyphs.foldl Array.push draft.glyphs }

def note (start stop : Nat) (isArguments : Bool) : Draft :=
  { draft with regions := draft.regions.push { start, stop, isArguments } }

/-- The stretches before a place. The first one stays even if it comes to nothing. -/
def regionsBefore (stop : Nat) : List Region :=
  let clamp (region : Region) : Region := { region with stop := min region.stop stop }
  match draft.regions.toList with
  | [] => []
  | first :: rest =>
      if stop < first.stop then if stop < first.start then [] else [clamp first]
      else first :: (rest.takeWhile (·.start < stop)).map clamp

/-- Takes back all from a place on, with the stretches noted there. -/
def cut (start : Nat) : Draft :=
  { glyphs := draft.glyphs.extract 0 start, regions := (draft.regionsBefore start).toArray }

def rest (start : Nat) : List Glyph :=
  (draft.glyphs.extract start draft.glyphs.size).toList

end Draft

/-- The text of glyphs up to a zero character, where texts end. -/
def textOf (glyphs : List Glyph) : String :=
  String.ofList ((glyphs.filterMap (·.char?)).takeWhile (· ≠ '\x00'))

/-- The text of glyphs as a pattern: a backslash goes before each character that stands for itself, unless
one is there already. -/
def patternOf (glyphs : List Glyph) : List Char :=
  marked true (glyphs.takeWhile (· ≠ .plain '\x00'))
where
  marked (isFree : Bool) : List Glyph → List Char
    | [] => []
    | .quote :: rest => marked true rest
    | .plain c :: rest => c :: marked (c ≠ '\\') rest
    | .escaped c :: rest => if isFree then '\\' :: c :: marked true rest else c :: marked true rest

end LineShell.Script
