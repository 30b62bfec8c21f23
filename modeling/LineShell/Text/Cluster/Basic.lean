import LineShell.Text.Cluster.Kind
/-!
A text cut into extended grapheme clusters, the characters as a reader sees them. What stands before a
place is summed up in a trail, so the text is read once from left to right. Main statement: nothing of
the text is lost.
-/

namespace LineShell.Text.Cluster

/-- How far a sequence of pictographs joined into one has come. -/
inductive Picture
  | none
  | drawn
  | joined
deriving DecidableEq, Repr

/-- How far a conjunct of consonants has come. -/
inductive Conjunct
  | none
  | consonant
  | linked
deriving DecidableEq, Repr

/-- What matters about the characters read so far. -/
structure Trail where
  last : Kind
  picture : Picture
  conjunct : Conjunct
  /-- The regional indicators at the end are odd in number, so the last one lacks its partner. -/
  unpaired : Bool
deriving DecidableEq, Repr

namespace Picture

def next (picture : Picture) : Kind → Picture
  | .pictograph => drawn
  | .extender => if picture = drawn then drawn else none
  | .joiner => if picture = drawn then joined else none
  | _ => none

end Picture

namespace Conjunct

def next (conjunct : Conjunct) (kind : Kind) (c : Char) : Conjunct :=
  if kind = .consonant then consonant
  else if conjunct = none || c = nonJoiner then none
  else if isLinker c then linked
  else if kind = .extender || kind = .joiner then conjunct
  else none

end Conjunct

namespace Trail

def start (c : Char) : Trail :=
  let kind := Kind.ofChar c
  { last := kind
    picture := Picture.none.next kind
    conjunct := Conjunct.none.next kind c
    unpaired := kind = .regionalIndicator }

variable (trail : Trail)

def next (c : Char) : Trail :=
  let kind := Kind.ofChar c
  { last := kind
    picture := trail.picture.next kind
    conjunct := trail.conjunct.next kind c
    unpaired := kind = .regionalIndicator && !trail.unpaired }

def syllableGoesOn : Hangul → Hangul → Bool
  | .leading, .trailing => false
  | .leading, _ => true
  | .open, .vowel | .vowel, .vowel => true
  | .open, .trailing | .vowel, .trailing => true
  | .closed, .trailing | .trailing, .trailing => true
  | _, _ => false

def joins (c : Char) : Bool :=
  match trail.last, Kind.ofChar c with
  | .carriageReturn, .lineFeed => true
  | .carriageReturn, _ | .lineFeed, _ | .control, _ => false
  | _, .carriageReturn | _, .lineFeed | _, .control => false
  | _, .extender | _, .joiner | _, .spacingMark => true
  | .opener, _ => true
  | .hangul first, .hangul second => syllableGoesOn first second
  | _, .consonant => trail.conjunct = .linked
  | _, .pictograph => trail.picture = .joined
  | .regionalIndicator, .regionalIndicator => trail.unpaired
  | _, _ => false

end Trail

def continued (trail : Trail) (current : List Char) : List Char → List (List Char)
  | [] => [current.reverse]
  | c :: rest =>
      if trail.joins c then continued (trail.next c) (c :: current) rest
      else current.reverse :: continued (trail.next c) [c] rest

def ofChars : List Char → List (List Char)
  | [] => []
  | c :: rest => continued (Trail.start c) [c] rest

theorem flatten_continued (trail : Trail) (current text : List Char) :
    (continued trail current text).flatten = current.reverse ++ text := by
  induction text generalizing trail current with
  | nil => simp [continued]
  | cons c rest ih =>
      by_cases joined : trail.joins c <;> simp [continued, joined, ih]

theorem flatten_ofChars (text : List Char) : (ofChars text).flatten = text := by
  cases text with
  | nil => rfl
  | cons c rest => simp [ofChars, flatten_continued]

end LineShell.Text.Cluster
