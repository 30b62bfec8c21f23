import LineShell.Script.Arithmetic
import LineShell.Script.Field
import LineShell.Script.Setting
import LineShell.Script.Trimming
/-!
What the words of a script turn into: parameters and substitutions are replaced by their texts, these
are cut into fields, and fields with wildcards become the paths that they fit.
-/

namespace LineShell.Script

/-- Something that runs a script and answers with its output. -/
abbrev Capture := Statement → Action String

/-! ## Home directories -/

def accounts : List (String × String) :=
  [ ("root", "/root"), ("daemon", "/usr/sbin"), ("bin", "/bin"), ("sys", "/dev"), ("sync", "/bin"),
    ("games", "/usr/games"), ("man", "/var/cache/man"), ("lp", "/var/spool/lpd"),
    ("mail", "/var/mail"), ("news", "/var/spool/news"), ("uucp", "/var/spool/uucp"),
    ("proxy", "/bin"), ("www-data", "/var/www"), ("backup", "/var/backups"),
    ("list", "/var/list"), ("irc", "/run/ircd"), ("_apt", "/nonexistent"),
    ("nobody", "/nonexistent") ]

/-- The name that a tilde asks for, and the symbols behind it; quotes in it make it none. -/
def tildeName (tildes : Bool) : Word → Option (List (Option Char) × Word)
  | [] => some ([], [])
  | symbol :: rest =>
      let go (c : Option Char) := (tildeName tildes rest).map fun (name, rest) => (c :: name, rest)
      match symbol with
      | .escaped _ | .quote => none
      | .plain ':' => if tildes then some ([], symbol :: rest) else go (some ':')
      | .plain '/' | .endParameter => some ([], symbol :: rest)
      | .plain c => go (some c)
      | _ => go none

/-- The home directory of a name; that of nobody in particular is in a variable. -/
def homeOf? (shell : Shell) (name : List (Option Char)) : Option String :=
  if name = [] then shell.value? "HOME"
  else do accounts.lookup (String.ofList (← name.mapM id))

/-! ## Values -/

namespace Shell

variable (shell : Shell)

def joint : List Char :=
  match shell.value? "IFS" with
  | none => [' ']
  | some separators => separators.toList.take 1

/-- What stands between arguments. Where they are to be fields, that is a zero character, or a blank if
the script has no say in it. -/
def argumentJoint (name : String) (manner : Manner) : List Char :=
  if manner.full && manner.quoted && name = "@" then ['\x00']
  else if manner.full && !manner.quoted then
    (if (shell.value? "IFS").isSome then ['\x00'] else [' '])
  else shell.joint

/-- The characters of a parameter's value, if it has one. -/
def valueOf? (name : String) (manner : Manner) : Option (List Char) :=
  match name with
  | "$" => some (toString shell.rootId).toList
  | "?" => some (toString shell.status).toList
  | "#" => some (toString shell.arguments.length).toList
  | "!" => shell.backgroundId.map fun id => (toString id).toList
  | "-" => some shell.optionLetters.toList
  | "@" | "*" =>
      some ((shell.argumentJoint name manner).intercalate (shell.arguments.map String.toList))
  | name =>
      match name.toList with
      | first :: _ =>
          if first.isDigit then
            match Integer.ofText? false name with
            | some 0 => some shell.self.toList
            | some (.ofNat (index + 1)) => shell.arguments[index]?.map String.toList
            | _ => none
          else (shell.value? name).map String.toList
      | [] => none

end Shell

def addChars (manner : Manner) (chars : List Char) : Action Unit :=
  modify fun shell => { shell with draft := shell.draft.add (chars.map manner.glyph) }

def addGlyphs (glyphs : List Glyph) : Action Unit :=
  modify fun shell => { shell with draft := shell.draft.add glyphs }

def draftSize : Action Nat := do
  return (← get).draft.size

/-- Notes what stands from a place on as a stretch that is cut into fields. -/
def noteRegion (start : Nat) (isArguments : Bool) : Action Unit :=
  modify fun shell =>
    { shell with draft := shell.draft.note start shell.draft.size isArguments }

def cutDraft (start : Nat) : Action Unit :=
  modify fun shell => { shell with draft := shell.draft.cut start }

/-- Adds the value of a parameter; the answer is its length, if it has one. -/
def addValue (name : String) (use : ParameterUse) (manner : Manner) : Action (Option Nat) := do
  let isDiscarded := use = .instead || use = .length || manner.discarded
  let manner := if isDiscarded then { manner with full := false } else manner
  if use = .unknown then
    if isDiscarded then return none else fail "Bad substitution"
  else
    match (← get).valueOf? name manner with
    | none => return none
    | some chars => do
        if !isDiscarded then addChars manner chars
        return some chars.length

/-! ## Words -/

/-- The plain characters up to one behind which tildes count, or to the next symbol of another kind. -/
def plainRun (manner : Manner) : Word → List Char × Word
  | .plain c :: rest =>
      if manner.tildes && (c = ':' || c = '=' && !manner.pastEquals) then ([c], rest)
      else
        let (chars, rest) := plainRun manner rest
        (c :: chars, rest)
  | rest => ([], rest)

def refuseParameter {α : Type} (name reason : String) : Action α :=
  fail s!"{name}: {reason}"

/-- Complains of a parameter without a value, in the words of the script or in others. -/
def refuseUnset {α : Type} (name : String) (orEmpty : Bool) (words : Option String) : Action α :=
  refuseParameter name (match words with
    | some words => words
    | none => if orEmpty then "parameter not set or null" else "parameter not set")

mutual

/-- Expands symbols up to one that ends what they belong to; the answer is what stands behind it. -/
def expandFrom (fuel : Nat) (capture : Capture) (manner : Manner) (word : Word) : Action Word :=
  match fuel with
  | 0 => return []
  | fuel + 1 =>
      if manner.tilde then expandTilde fuel capture { manner with tilde := false } false word
      else expandSymbols fuel capture manner false [] word

def expandTilde (fuel : Nat) (capture : Capture) (manner : Manner) (isQuoted : Bool) (word : Word) :
    Action Word :=
  match fuel, word with
  | 0, _ => return []
  | fuel + 1, .plain '~' :: rest => do
      match tildeName manner.tildes rest with
      | none => expandSymbols fuel capture manner isQuoted [] word
      | some (name, behind) =>
          if manner.discarded then expandSymbols fuel capture manner isQuoted [] behind
          else
            match homeOf? (← get) name with
            | none => expandSymbols fuel capture manner isQuoted [] word
            | some home => do
                addChars { manner with quoted := true } home.toList
                expandSymbols fuel capture manner isQuoted [] behind
  | fuel + 1, word => expandSymbols fuel capture manner isQuoted [] word

/-- Expands symbols; a glyph may stand before them that is not to be cut at. -/
def expandSymbols (fuel : Nat) (capture : Capture) (manner : Manner) (isQuoted : Bool)
    (lead : List Glyph) (word : Word) : Action Word :=
  match fuel with
  | 0 => return []
  | fuel + 1 => do
      Action.pause
      let (chars, rest) := plainRun manner word
      if !manner.discarded then
        let start := (← draftSize) + lead.length
        addGlyphs (lead ++ chars.map Glyph.plain)
        if manner.inner && !manner.quoted && !isQuoted && chars ≠ [] then noteRegion start false
      let manner := if chars.getLast? = some '=' then { manner with pastEquals := true } else manner
      let inside := { manner with quoted := manner.quoted || isQuoted }
      let go (lead : List Glyph) (isQuoted : Bool) (rest : Word) : Action Word :=
        expandSymbols fuel capture manner isQuoted lead rest
      match rest with
      | [] => return []
      | .endParameter :: rest | .endArithmetic :: rest => return rest
      | .plain c :: _ =>
          if c = '~' then expandTilde fuel capture manner isQuoted rest
          else expandSymbols fuel capture manner isQuoted [] rest
      | .escaped c :: rest =>
          go [if manner.keepsMarks then .escaped c else .plain c] isQuoted rest
      | .quote :: rest => do
          match rest with
          | .parameter "@" .value false :: .quote :: behind =>
              if isQuoted then
                go (if manner.keepsMarks then [.quote] else []) false rest
              else
                let _ ← expandParameter fuel capture { manner with quoted := true } "@" .value false []
                go [] false behind
          | rest => go (if manner.keepsMarks then [.quote] else []) (!isQuoted) rest
      | .parameter name use orEmpty :: rest => do
          let rest ← expandParameter fuel capture inside name use orEmpty rest
          go [] isQuoted rest
      | .output script :: rest => do
          if !manner.discarded then
            let start ← draftSize
            let output ← capture script
            let chars := (output.toList.filter (· ≠ '\x00')).reverse.dropWhile (· = '\n')
            addChars inside chars.reverse
            if !inside.quoted then noteRegion start false
          go [] isQuoted rest
      | .arithmetic :: rest => do
          let rest ← expandArithmetic fuel capture inside rest
          go [] isQuoted rest

/-- Expands a parameter with the word that belongs to it; the answer is what stands behind that. -/
def expandParameter (fuel : Nat) (capture : Capture) (manner : Manner) (name : String)
    (use : ParameterUse) (orEmpty : Bool) (rest : Word) : Action Word :=
  match fuel with
  | 0 => return []
  | fuel + 1 => do
      let start ← draftSize
      let length ← addValue name use manner
      let isUnset := length.isNone || orEmpty && length = some 0
      let note (rest : Word) : Action Word := do
        if !manner.quoted then noteRegion start false
        else if name = "@" && (← get).arguments ≠ [] then noteRegion start true
        return rest
      let checkSet : Action Unit := do
        if isUnset && !manner.discarded && (← get).has "nounset" then refuseUnset name false none
      match use with
      | .instead => do
          let rest ← expandFrom fuel capture
            { manner with tilde := true, inner := true, discarded := manner.discarded || isUnset } rest
          if manner.discarded || !isUnset then return rest else note rest
      | .otherwise | .unknown => do
          let rest ← expandFrom fuel capture
            { manner with tilde := true, inner := true, discarded := manner.discarded || !isUnset } rest
          if manner.discarded || isUnset then return rest else note rest
      | .required | .assigned =>
          if manner.discarded || !isUnset then
            let rest ← expandFrom fuel capture { tilde := true, discarded := true } rest
            if manner.discarded then return rest else note rest
          else
            let behind ← expandFrom fuel capture { tilde := true } rest
            let text := textOf ((← get).draft.rest start)
            cutDraft start
            if use = .assigned then
              setVariable name (some text) false
              let _ ← addValue name .value manner
              note behind
            else
              let isBlank := match rest with
                | .endParameter :: _ => true
                | _ => false
              refuseUnset name orEmpty (if isBlank then none else some text)
      | .length => do
          checkSet
          if !manner.discarded then
            addChars manner (toString (length.getD 0)).toList
            note (rest.drop 1)
          else return rest.drop 1
      | .value => do
          checkSet
          if manner.discarded || isUnset then return rest else note rest
      | .trimmedBack longest => do
          checkSet
          expandTrimmed fuel capture manner start isUnset false longest note rest
      | .trimmedFront longest => do
          checkSet
          expandTrimmed fuel capture manner start isUnset true longest note rest

/-- Takes an end or a start off the value that has been added from a place on. -/
def expandTrimmed (fuel : Nat) (capture : Capture) (manner : Manner) (start : Nat)
    (isUnset isFront longest : Bool) (note : Word → Action Word) (rest : Word) : Action Word :=
  match fuel with
  | 0 => return []
  | fuel + 1 => do
      let isDiscarded := manner.discarded || isUnset
      let place ← draftSize
      let rest ← expandFrom fuel capture { tilde := true, pattern := true, discarded := isDiscarded }
        rest
      if isDiscarded then return rest
      else
        let draft := (← get).draft
        let value := (draft.rest start).take (place - start)
        let pattern := draft.rest place
        cutDraft start
        addGlyphs (Trimming.trim isFront longest value pattern)
        note rest

def expandArithmetic (fuel : Nat) (capture : Capture) (manner : Manner) (word : Word) :
    Action Word :=
  match fuel with
  | 0 => return []
  | fuel + 1 => do
      let start ← draftSize
      let rest ← expandFrom fuel capture { discarded := manner.discarded } word
      if !manner.discarded then
        let text := textOf ((← get).draft.rest start)
        cutDraft start
        addChars manner (toString (← calculation text)).toList
        if !manner.quoted then noteRegion start false
      return rest

end

/-! ## Results -/

def draftOf (capture : Capture) (manner : Manner) (word : Word) : Action Draft := do
  modify fun shell => { shell with draft := {} }
  let _ ← expandFrom (8 * (word.length + 2)) capture manner word
  let draft := (← get).draft
  modify fun shell => { shell with draft := {} }
  return draft

def expandText (capture : Capture) (manner : Manner) (word : Word) : Action String := do
  return textOf ((← draftOf capture manner word).rest 0)

def expandPattern (capture : Capture) (word : Word) : Action (List Char) := do
  return patternOf ((← draftOf capture { tilde := true, pattern := true } word).rest 0)

/-- The words that a field turns into: the paths that it fits, or itself. -/
def pathsOf (field : List Glyph) : Action (List String) := do
  let hasWildcard := field.any fun glyph =>
    match glyph.char? with
    | none => false
    | some c => c = '*' || c = '?' || c = '['
  if !hasWildcard || (← get).has "noglob" then return [textOf field]
  else
    let pattern := patternOf field
    let paths ← Action.ask fun id machine =>
      match machine.task? id with
      | none => []
      | some task => Pattern.paths (machine.filesListed id) task.workingDir pattern
    return if paths.isEmpty then [textOf field] else paths

def expandWords (capture : Capture) (word : Word) : Action (List String) := do
  let draft ← draftOf capture { full := true, tilde := true } word
  let fields := draft.fields (← get).separators none
  return (← fields.mapM pathsOf).flatten

end LineShell.Script
