import LineShell.FileSystem.Walk
import LineShell.Text.Octets
/-!
Patterns with wildcards, matched against texts and against the files of a system. In the text of a pattern
a backslash makes the character behind it stand for itself.
-/

namespace LineShell.Script

namespace Pattern

/-! ## Sets of characters -/

def classes : List (String × (Char → Bool)) :=
  [ ("alnum", Char.isAlphanum), ("alpha", Char.isAlpha), ("digit", Char.isDigit),
    ("upper", Char.isUpper), ("lower", Char.isLower),
    ("blank", fun c => c = ' ' || c = '\t'),
    ("space", fun c => c = ' ' || '\t' ≤ c && c ≤ '\r'),
    ("cntrl", fun c => c < ' ' || c = '\x7f'),
    ("print", fun c => ' ' ≤ c && c < '\x7f'),
    ("graph", fun c => ' ' < c && c < '\x7f'),
    ("punct", fun c => ' ' < c && c < '\x7f' && !c.isAlphanum),
    ("xdigit", fun c => c.isDigit || 'a' ≤ c && c ≤ 'f' || 'A' ≤ c && c ≤ 'F') ]

/-- The class that is named at the start of a text, behind an opening bracket, and what follows it. -/
def class? (text : List Char) : Option ((Char → Bool) × List Char) :=
  classes.findSome? fun (name, holds) =>
    let spelling := (":" ++ name ++ ":]").toList
    if spelling.isPrefixOf text then some (holds, text.drop spelling.length) else none

def signed (c : Char) : Int :=
  if c.toNat < 128 then c.toNat else c.toNat - 256

/-- A character without the backslash before it. -/
def withoutBackslash : List Char → List Char
  | '\\' :: rest => rest
  | text => text

/-- Whether a set holds a byte, and what follows the set; one that nothing closes is none. The first
character of a set is an element even if it is a bracket. -/
def setFrom (fuel : Nat) (wanted : Char) (isFirst found : Bool) (text : List Char) :
    Option (Bool × List Char) :=
  match fuel with
  | 0 => none
  | fuel + 1 =>
      match text with
      | [] => none
      | c :: rest =>
          if c = ']' && !isFirst then some (found, rest)
          else match if c = '[' then class? rest else none with
            | some (holds, rest) => setFrom fuel wanted false (found || holds wanted) rest
            | none =>
                let (first, rest) := match c, rest with
                  | '\\', c :: rest => (c, rest)
                  | c, rest => (c, rest)
                match rest with
                | '-' :: ']' :: _ => setFrom fuel wanted false (found || wanted = first) rest
                | '-' :: after =>
                    match withoutBackslash after with
                    | [] => none
                    | last :: after =>
                        let isWithin := signed first ≤ signed wanted && signed wanted ≤ signed last
                        setFrom fuel wanted false (found || isWithin) after
                | rest => setFrom fuel wanted false (found || wanted = first) rest

/-- Whether the set behind an opening bracket holds a byte, and what follows it. -/
def set? (wanted : Char) (text : List Char) : Option (Bool × List Char) :=
  match text with
  | '!' :: inside =>
      (setFrom inside.length wanted true false inside).map fun (found, rest) => (!found, rest)
  | inside => setFrom inside.length wanted true false inside

/-- Whether a pattern fits the whole of a text. Each round takes a character of the pattern or of the
text, so their number is fuel enough. -/
def fitsFrom (fuel : Nat) (pattern text : List Char) : Bool :=
  match fuel with
  | 0 => false
  | fuel + 1 =>
      match pattern, text with
      | [], text => text.isEmpty
      | '*' :: rest, text =>
          fitsFrom fuel rest text || match text with
            | [] => false
            | _ :: text => fitsFrom fuel pattern text
      | _ :: _, [] => false
      | '?' :: rest, _ :: text => fitsFrom fuel rest text
      | '\\' :: wanted :: rest, c :: text => wanted = c && fitsFrom fuel rest text
      | '[' :: inside, c :: text =>
          match set? c inside with
          | some (found, rest) => found && fitsFrom fuel rest text
          | none => c = '[' && fitsFrom fuel inside text
      | wanted :: rest, c :: text => wanted = c && fitsFrom fuel rest text

def fits (pattern text : List Char) : Bool :=
  fitsFrom (pattern.length + text.length + 1) pattern text

/-! ## Files -/

/-- Whether a set of characters stands behind an opening bracket in one part of a path. -/
def opensSet (fuel : Nat) (text : List Char) : Bool :=
  match fuel with
  | 0 => false
  | fuel + 1 =>
      match withoutBackslash text with
      | [] | '/' :: _ => false
      | _ :: ']' :: _ => true
      | _ :: rest => opensSet fuel rest

def hasWildcard (fuel : Nat) (part : List Char) : Bool :=
  match fuel, part with
  | 0, _ | _, [] => false
  | fuel + 1, c :: rest =>
      match c, rest with
      | '*', _ | '?', _ => true
      | '[', rest =>
          let inside := match rest with
            | '!' :: inside => inside
            | inside => inside
          opensSet (rest.length + 1) inside || hasWildcard fuel rest
      | '\\', _ :: rest => hasWildcard fuel rest
      | _, rest => hasWildcard fuel rest

/-- The parts of a path pattern, each with the separator behind it left out. -/
def parts (fuel : Nat) (pattern : List Char) : List (List Char) :=
  match fuel with
  | 0 => [pattern]
  | fuel + 1 =>
      match pattern with
      | [] => [[]]
      | '\\' :: '/' :: rest | '/' :: rest => [] :: parts fuel rest
      | '\\' :: c :: rest => extend ['\\', c] (parts fuel rest)
      | c :: rest => extend [c] (parts fuel rest)
where
  extend (start : List Char) : List (List Char) → List (List Char)
    | [] => [start]
    | first :: others => (start ++ first) :: others

/-- A part of a path without its backslashes. -/
def unescaped : List Char → List Char
  | '\\' :: c :: rest => c :: unescaped rest
  | c :: rest => c :: unescaped rest
  | [] => []

/-- Whether a part of a pattern fits a name in a directory. A dot at the start has to be asked for. -/
def fitsName (part : List Char) (name : List Char) : Bool :=
  let asksForDot := (withoutBackslash part).head? = some '.'
  (name.head? ≠ some '.' || asksForDot) && fits part name

def namesThatFit (files : FileSystem) (here : Location) (dir : List Char) (part : List Char) :
    List (List Char) :=
  let path := if dir = [] then "." else String.ofList dir
  match files.locate here (Octets.toPath path) with
  | .error _ => []
  | .ok location =>
      if !files.isDirectory location then []
      else
        let names := ['.'] :: ['.', '.'] ::
          (files.namesIn location).map fun name => (Octets.ofText name).toList
        names.filter (fitsName part)

/-- The paths that the parts of a pattern fit, given what comes before them. Parts without a wildcard
stand for themselves, and what they lead to has to exist. -/
def pathsFrom (files : FileSystem) (here : Location) (start : List Char) :
    List (List Char) → List String
  | [] => []
  | part :: rest =>
      if hasWildcard part.length part then
        let paths := (namesThatFit files here start part).map (start ++ ·)
        match rest with
        | [] => paths.map String.ofList
        | _ :: _ => paths.flatMap fun path => pathsFrom files here (path ++ ['/']) rest
      else
        match rest with
        | [] =>
            let path := String.ofList (start ++ unescaped part)
            if (files.lstat here (Octets.toPath path)).isOk then [path] else []
        | _ :: _ => pathsFrom files here (start ++ unescaped part ++ ['/']) rest

/-- The paths that a pattern fits, in their order; none if it has no wildcard. -/
def paths (files : FileSystem) (here : Location) (pattern : List Char) : List String :=
  let parts := parts pattern.length pattern
  if parts.any fun part => hasWildcard part.length part then
    (pathsFrom files here [] parts).mergeSort
  else []

end Pattern

end LineShell.Script
