import LineShell.Script.Draft
/-!
Fields: what a draft is cut into at the separators in its stretches. White space among the separators
ends a field as often as it comes in a row only once.
-/

namespace LineShell.Script

namespace Draft

/-- What a glyph is to the field it stands behind. -/
inductive Separation
  | content
  | space
  | mark
deriving DecidableEq, Repr

/-- What a glyph of a stretch is. Between arguments stands a zero character, which is space anywhere. -/
def separation (separators : List Char) (isArguments : Bool) (glyph : Glyph) : Separation :=
  match glyph.char? with
  | none => .content
  | some c =>
      if c = '\x00' then .space
      else if isArguments || !separators.contains c then .content
      else if " \t\n".toList.contains c then .space
      else .mark

/-- Fields as far as they have been cut. -/
structure Cutter where
  fields : List (List Glyph) := []
  start : Nat := 0
  /-- White space has just ended a field; more of it, and one other separator, belong to that end. -/
  inSpace : Bool := false
  isArguments : Bool := false
  afterArguments : Bool := false
  room : Option Nat := none
  /-- A separator has been seen in the last of these, which takes up all that is left. -/
  isFull : Bool := false
  /-- Where that field ends if nothing but separators follows. -/
  stop : Option Nat := none

namespace Cutter

/-- Ends the field at hand before a glyph. -/
def close (draft : Draft) (index : Nat) (cutter : Cutter) : Cutter :=
  { cutter with
    fields := (draft.glyphs.extract cutter.start index).toList :: cutter.fields
    start := index + 1
    room := cutter.room.map (· - 1) }

/-- Takes the next glyph of a stretch for the last field. White space at its end does not belong to it, nor
does a single other separator, with white space before it or not. -/
def takeLast (kind : Separation) (index : Nat) (cutter : Cutter) : Cutter :=
  match kind with
  | .space => { cutter with stop := cutter.stop.or (some index) }
  | .mark => { cutter with stop := if cutter.inSpace then cutter.stop else none, inSpace := false }
  | .content => { cutter with stop := none, inSpace := false }

def take (draft : Draft) (separators : List Char) (cutter : Cutter) (index : Nat) : Cutter :=
  match draft.glyphs[index]? with
  | none => cutter
  | some glyph =>
      let kind := separation separators cutter.isArguments glyph
      if cutter.isFull then cutter.takeLast kind index
      else if cutter.inSpace then
        match kind with
        | .content => { cutter with start := index, inSpace := false }
        | .mark => { cutter with start := index + 1, inSpace := false }
        | .space => { cutter with start := index + 1 }
      else if kind = .content then cutter
      else
        let isSpace := kind = .space && !(cutter.isArguments || cutter.afterArguments)
        if index = cutter.start && isSpace then { cutter with start := index + 1 }
        else if cutter.room = some 1 then
          { cutter with isFull := true, stop := some index, inSpace := isSpace }
        else { cutter.close draft index with inSpace := isSpace }

def takeRegion (draft : Draft) (separators : List Char) (cutter : Cutter) (region : Region) :
    Cutter :=
  let cutter := { cutter with
    afterArguments := cutter.isArguments, isArguments := region.isArguments, inSpace := false }
  (List.range' region.start (region.stop - region.start)).foldl (take draft separators) cutter

end Cutter

/-- The fields of a draft, at most so many if a number is given. -/
def fields (draft : Draft) (separators : List Char) (room : Option Nat) : List (List Glyph) :=
  let cutter :=
    draft.regions.foldl (Cutter.takeRegion draft separators) ({ room } : Cutter)
  let last := (draft.glyphs.extract cutter.start (cutter.stop.getD draft.size)).toList
  let isOver := last = [] && !(!draft.regions.isEmpty && cutter.isArguments)
  (if isOver then cutter.fields else last :: cutter.fields).reverse

end Draft

end LineShell.Script
