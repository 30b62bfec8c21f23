import LineShell.Script.Input
/-!
How words are read: with their quotes, parameters and substitutions. A word is read in stretches, each
with a syntax of its own; how a substituted script is read is left to a reader that the caller provides.
-/

namespace LineShell.Script

/-! ## Characters -/

def isNameStart (c : Char) : Bool :=
  c.isAlpha || c = '_'

def isNameChar (c : Char) : Bool :=
  isNameStart c || c.isDigit

def isName (text : List Char) : Bool :=
  match text with
  | [] => false
  | c :: rest => isNameStart c && rest.all isNameChar

def isSpecial (c : Char) : Bool :=
  "#?$!-*@".toList.contains c || c.isDigit

def isControl (c : Char) : Bool :=
  '\x81' ≤ c && c ≤ '\x88'

/-- The characters that are escaped inside quotes, because they mean something to patterns and tildes. -/
def isPatternChar (c : Char) : Bool :=
  "!*?[=~:/-]".toList.contains c

/-- The rules by which a stretch is read. -/
inductive Syntax
  | bare
  | doubleQuoted
  | singleQuoted
  | arithmetic
deriving DecidableEq, Repr

/-- What a character is to a stretch. -/
inductive CharKind
  | word | newline | backslash | singleQuote | doubleQuote | endQuote | dollar | backquote | endBrace
  | opening | closing | delimiter | escaped
deriving DecidableEq, Repr

namespace Syntax

def bareKind (c : Char) : CharKind :=
  if isControl c then .escaped
  else match c with
    | '\n' => .newline
    | '\\' => .backslash
    | '\'' => .singleQuote
    | '"' => .doubleQuote
    | '\x60' => .backquote
    | '$' => .dollar
    | '}' => .endBrace
    | '<' | '>' | '(' | ')' | ';' | '&' | '|' | ' ' | '\t' => .delimiter
    | _ => .word

def doubleKind (c : Char) : CharKind :=
  if isControl c || isPatternChar c then .escaped
  else match c with
    | '\n' => .newline
    | '\\' => .backslash
    | '"' => .endQuote
    | '\x60' => .backquote
    | '$' => .dollar
    | '}' => .endBrace
    | _ => .word

def singleKind (c : Char) : CharKind :=
  if isControl c || isPatternChar c || c = '\\' then .escaped
  else match c with
    | '\n' => .newline
    | '\'' => .endQuote
    | _ => .word

def arithmeticKind (c : Char) : CharKind :=
  if isControl c then .escaped
  else match c with
    | '\n' => .newline
    | '\\' => .backslash
    | '\x60' => .backquote
    | '$' => .dollar
    | '}' => .endBrace
    | '(' => .opening
    | ')' => .closing
    | _ => .word

def kind : Syntax → Char → CharKind
  | bare => bareKind
  | doubleQuoted => doubleKind
  | singleQuoted => singleKind
  | arithmetic => arithmeticKind

end Syntax

/-- A stretch of a word, inside those around it. -/
structure Stretch where
  rules : Syntax
  isDoubleQuoted : Bool := false
  hasInnerQuotes : Bool := false
  isOfBraces : Bool := false
  braces : Nat := 0
  quotedBraces : Nat := 0
  parentheses : Nat := 0
deriving DecidableEq, Repr

/-- A word as far as it has been read. -/
structure Lexing where
  symbols : List Symbol := []
  stretch : Stretch
  around : List Stretch := []
  isQuoted : Bool := false
  /-- The word is a document, up to this line. -/
  document : Option PendingDocument := none

namespace Lexing

variable (lexing : Lexing)

def add (symbol : Symbol) : Lexing :=
  { lexing with symbols := symbol :: lexing.symbols }

/-- Notes where quotes begin or end, which in documents nobody does. -/
def addQuote : Lexing :=
  if lexing.document.isSome then lexing else lexing.add .quote

def push (stretch : Stretch) : Lexing :=
  { lexing with stretch, around := lexing.stretch :: lexing.around }

def pop : Lexing :=
  match lexing.around with
  | [] => lexing
  | stretch :: around => { lexing with stretch, around }

def toggleInnerQuotes : Lexing :=
  let stretch := lexing.stretch
  if stretch.braces = 0 then lexing
  else
    { lexing with stretch := { stretch with hasInnerQuotes := !stretch.hasInnerQuotes } }

def openSingleQuotes : Lexing :=
  { lexing with stretch := { lexing.stretch with rules := .singleQuoted } }.addQuote

def openDoubleQuotes : Lexing :=
  { lexing with
    stretch :=
      { lexing.stretch with
        rules := .doubleQuoted
        isDoubleQuoted := true } }.toggleInnerQuotes.addQuote

/-- What a quote does that ends a stretch, unless the stretch is a document. -/
def closeQuotes (c : Char) : Lexing :=
  if lexing.document.isSome && lexing.stretch.braces = 0 then lexing.add (.plain c)
  else
    let stretch :=
      if lexing.stretch.quotedBraces = 0 then
        { lexing.stretch with rules := .bare, isDoubleQuoted := false }
      else lexing.stretch
    let closed := { lexing with stretch, isQuoted := true }
    if c = '"' then closed.toggleInnerQuotes.addQuote else closed.addQuote

def closeBrace : Lexing :=
  let stretch := lexing.stretch
  if stretch.hasInnerQuotes || stretch.braces = 0 then lexing.add (.plain '}')
  else
    let closed :=
      if stretch.braces = 1 && stretch.isOfBraces then lexing.pop
      else
        { lexing with
          stretch :=
            { stretch with
              braces := stretch.braces - 1
              quotedBraces := stretch.quotedBraces - 1 } }
    closed.add .endParameter

def addEscaped (c : Char) : Lexing :=
  let stretch := lexing.stretch
  if lexing.document.isNone || stretch.isDoubleQuoted || stretch.braces ≠ 0 then
    lexing.add (.escaped c)
  else lexing.add (.plain c)

/-- Adds a character behind a backslash, which inside double quotes stays before most of them. -/
def addBackslashed (c : Char) : Lexing :=
  let stretch := lexing.stretch
  let escapesQuote := lexing.document.isNone || stretch.braces ≠ 0
  let keeps := stretch.isDoubleQuoted && !"\\\x60$".toList.contains c &&
    !(c = '"' && escapesQuote) && !(c = '}' && stretch.braces ≠ 0)
  let lexing := if keeps then lexing.add (.escaped '\\') else lexing
  { lexing.add (.escaped c) with isQuoted := true }

/-- Opens the braces of a parameter, or adds one that has none. -/
def addParameter (name : String) (use : ParameterUse) (orEmpty : Bool) (rules : Syntax) : Lexing :=
  let added := lexing.add (.parameter name use orEmpty)
  if use = .value && !orEmpty then added
  else
    let rules := if rules = .arithmetic then .doubleQuoted else rules
    let added :=
      if rules ≠ lexing.stretch.rules || lexing.stretch.hasInnerQuotes then
        added.push { rules, isDoubleQuoted := rules ≠ .bare, isOfBraces := true }
      else added
    let stretch := added.stretch
    { added with
      stretch :=
        { stretch with
          braces := stretch.braces + 1
          quotedBraces := stretch.quotedBraces + if stretch.isDoubleQuoted then 1 else 0 } }

end Lexing

/-! ## Parameters -/

/-- Reads the characters of a name, from one on that has been read; the answer is the last character,
which is no part of it, and the name. -/
def nameFrom (fuel : Nat) (isPart : Char → Bool) (name : List Char) (c : Option Char) :
    Action (List Char × Option Char) :=
  match fuel, c with
  | fuel + 1, some c => do
      if isPart c then nameFrom fuel isPart (c :: name) (← nextUnescaped)
      else return (name.reverse, some c)
  | _, c => return (name.reverse, c)

def useOf? : Char → Option ParameterUse
  | '}' => some .value
  | '-' => some .otherwise
  | '+' => some .instead
  | '?' => some .required
  | '=' => some .assigned
  | _ => none

/-- What the braces of a parameter ask for. -/
structure BraceHead where
  name : String
  use : ParameterUse
  orEmpty : Bool := false

def braceUse (name : String) (c : Option Char) : Action BraceHead := do
  match c with
  | some ':' => do
      let use := ((← nextUnescaped).bind useOf?).getD .unknown
      return { name, use, orEmpty := true }
  | some '%' => do
      match ← nextUnescaped with
      | some '%' => return { name, use := .trimmedBack true }
      | c => do
          unreadChar c
          return { name, use := .trimmedBack false }
  | some '#' => do
      match ← nextUnescaped with
      | some '#' => return { name, use := .trimmedFront true }
      | c => do
          unreadChar c
          return { name, use := .trimmedFront false }
  | c => return { name, use := (c.bind useOf?).getD .unknown }

def lengthHead (c : Char) : Action BraceHead := do
  let (name, next) ← nameFrom stepLimit (if c.isDigit then Char.isDigit else isNameChar) [c]
    (← nextUnescaped)
  unreadChar next
  return { name := String.ofList name, use := if next = some '}' then .length else .unknown }

/-- Reads what follows a number sign in braces, which asks for a length or is itself the parameter. -/
def signHead : Action BraceHead := do
  let c ← nextUnescaped
  match c with
  | none => do
      let next ← nextUnescaped
      unreadChar next
      braceUse "#" none
  | some c =>
      if isNameChar c then lengthHead c
      else
        let next ← nextUnescaped
        if c = '}' || next ≠ some '}' then
          unreadChar next
          braceUse "#" (some c)
        else
          unreadChar next
          return { name := if isSpecial c then c.toString else "",
                   use := if isSpecial c then .length else .unknown }

/-- Reads what stands in braces up to the word that may come last in them. -/
def braceHead : Action BraceHead := do
  match ← nextUnescaped with
  | some c =>
      if isNameStart c then
        let (name, next) ← nameFrom stepLimit isNameChar [] (some c)
        braceUse (String.ofList name) next
      else if c.isDigit then
        let (name, next) ← nameFrom stepLimit Char.isDigit [] (some c)
        braceUse (String.ofList name) next
      else if c = '#' then signHead
      else if c = '}' then
        unreadChar (some c)
        return { name := "", use := .unknown }
      else
        let next ← nextUnescaped
        if isSpecial c then braceUse c.toString next
        else
          unreadChar next
          return { name := "", use := .unknown }
  | none => return { name := "", use := .unknown }

/-! ## Documents -/

/-- Whether the line at hand is the delimiter; if not, what has been read of it, the last first. -/
def matchDelimiter (delimiter : List Char) (seen : List Char) (c : Option Char) :
    Action (Option (List Char)) :=
  match delimiter, c with
  | [], none | [], some '\n' => return none
  | wanted :: delimiter, some c => do
      if c = wanted then matchDelimiter delimiter (c :: seen) (← nextChar)
      else return some (c :: seen)
  | _, none => return some seen
  | [], some c => return some (c :: seen)

def skipTabs (fuel : Nat) (c : Option Char) : Action (Option Char) :=
  match fuel, c with
  | fuel + 1, some '\t' => do skipTabs fuel (← nextChar)
  | _, c => return c

/-- At the start of a line of a document, the first character of the line; there is none at the end of
the document. If the line starts like the delimiter, the byte at which it differs is lost unless it is an
ASCII character. -/
def documentLine (document : PendingDocument) (c : Option Char) : Action (Option Char) := do
  let c ← if document.dedents then skipTabs stepLimit c else pure c
  match ← matchDelimiter document.delimiter [] c with
  | none => do
      countLine
      return none
  | some seen =>
      let kept := match seen with
        | c :: before :: others => if c < '\x80' then seen else before :: others
        | seen => seen
      match kept.reverse with
      | [] => return none
      | first :: rest => do
          if !rest.isEmpty then
            modify fun shell => { shell with source := shell.source.insert "" (String.ofList rest) }
          return some first

/-! ## Words -/

def nextOf (stretch : Stretch) : Action (Option Char) :=
  if stretch.rules = .singleQuoted then nextChar else nextUnescaped

def backquotedText (fuel : Nat) (inDouble : Bool) (text : List Char) : Action (List Char) :=
  match fuel with
  | 0 => return text
  | fuel + 1 => do
      payPrompt
      match ← nextUnescaped with
      | none => refuse .unterminatedBackquote
      | some '\x60' => return text
      | some '\\' => do
          match ← nextChar with
          | none => backquotedText fuel inDouble ('\\' :: text)
          | some c =>
              let isEscapable := "\\\x60$".toList.contains c || inDouble && c = '"'
              backquotedText fuel inDouble (if isEscapable then c :: text else c :: '\\' :: text)
      | some '\n' => do
          countLine
          backquotedText fuel inDouble ('\n' :: text)
      | some c => backquotedText fuel inDouble (c :: text)

/-- Reads what a dollar sign asks for. A substituted script is read by `script`. -/
def dollar (script : Action Statement) (lexing : Lexing) : Action Lexing := do
  let c ← nextUnescaped
  let isDelimiter := (← get).reading.isDelimiter
  match c with
  | some '(' =>
      if isDelimiter then
        unreadChar c
        return lexing.add (.plain '$')
      else
        match ← nextUnescaped with
        | some '(' =>
            return (lexing.add .arithmetic).push { rules := .arithmetic, isDoubleQuoted := true }
        | c => do
            unreadChar c
            return lexing.add (.output (← script))
  | some '{' =>
      if isDelimiter then
        unreadChar c
        return lexing.add (.plain '$')
      else
        let head ← braceHead
        let rules := match head.use with
          | .trimmedBack _ | .trimmedFront _ => .bare
          | _ => lexing.stretch.rules
        return lexing.addParameter head.name head.use head.orEmpty rules
  | some first =>
      if isDelimiter || !(isNameStart first || isSpecial first) then
        unreadChar c
        return lexing.add (.plain '$')
      else if isNameStart first then
        let (name, next) ← nameFrom stepLimit isNameChar [] c
        unreadChar next
        return lexing.addParameter (String.ofList name) .value false lexing.stretch.rules
      else return lexing.addParameter first.toString .value false lexing.stretch.rules
  | none => return lexing.add (.plain '$')

def backquote (script : Action Statement) (lexing : Lexing) : Action Lexing := do
  if (← get).reading.isDelimiter then
    return lexing.add (.plain '\x60')
  else
    let text ← backquotedText stepLimit lexing.stretch.isDoubleQuoted []
    pushSource { chars := text.reverse }
    let body ← script
    popSource
    return lexing.add (.output body)

/-- Reads a word from a character on, up to one that is no part of it. Substituted scripts are read by two
readers: one up to a parenthesis, the other up to the end of a text. -/
def symbols (nested whole : Action Statement) (fuel : Nat) (lexing : Lexing) (c : Option Char) :
    Action (Lexing × Option Char) :=
  match fuel, c with
  | 0, _ | _, none => return (lexing, none)
  | fuel + 1, some c => do
      let stretch := lexing.stretch
      let go (lexing : Lexing) : Action (Lexing × Option Char) := do
        symbols nested whole fuel lexing (← nextOf lexing.stretch)
      match stretch.rules.kind c with
      | .newline =>
          if stretch.rules = .bare && stretch.braces = 0 then return (lexing, some c)
          else
            continueLine
            Action.pause
            let c ← nextOf stretch
            let c ← match lexing.document with
              | some document => documentLine document c
              | none => pure c
            symbols nested whole fuel (lexing.add (.plain '\n')) c
      | .word => go (lexing.add (.plain c))
      | .escaped => go (lexing.addEscaped c)
      | .backslash =>
          match ← nextChar with
          | none => go (lexing.add (.escaped '\\'))
          | some c => go (lexing.addBackslashed c)
      | .singleQuote => go lexing.openSingleQuotes
      | .doubleQuote => go lexing.openDoubleQuotes
      | .endQuote => go (lexing.closeQuotes c)
      | .dollar => do
          let lexing ← dollar nested lexing
          go lexing
      | .endBrace => go lexing.closeBrace
      | .opening =>
          go { lexing.add (.plain c) with
            stretch := { stretch with parentheses := stretch.parentheses + 1 } }
      | .closing =>
          if stretch.parentheses ≠ 0 then
            go { lexing.add (.plain c) with
              stretch := { stretch with parentheses := stretch.parentheses - 1 } }
          else
            match ← nextUnescaped with
            | some ')' => go (lexing.add .endArithmetic).pop
            | next => do
                unreadChar next
                go (lexing.add (.plain c))
      | .backquote => do
          let lexing ← backquote whole lexing
          go lexing
      | .delimiter =>
          if stretch.braces = 0 then return (lexing, some c) else go (lexing.add (.plain c))

/-- Refuses a word that has come to its end before all in it is closed. -/
def checkClosed (lexing : Lexing) : Action Unit := do
  if lexing.stretch.rules = .arithmetic then refuse .missingParentheses
  else if lexing.stretch.rules ≠ .bare && lexing.document.isNone then refuse .unterminatedQuote
  else if lexing.stretch.braces ≠ 0 then refuse .missingBrace

def readDocument (nested whole : Action Statement) (document : PendingDocument) : Action Unit := do
  payPrompt
  let rules := if document.substitutes then .doubleQuoted else .singleQuoted
  let c ← if document.substitutes then nextUnescaped else nextChar
  let first ← documentLine document c
  let (lexing, _) ← symbols nested whole stepLimit
    { stretch := { rules, isDoubleQuoted := document.substitutes }, document := some document } first
  checkClosed lexing
  let word := lexing.symbols.reverse
  let word := if document.substitutes then word else (Word.characters word).map .escaped
  modify fun shell =>
    { shell with documents := shell.documents.set! document.number word }

def readDocuments (nested whole : Action Statement) : Action Unit := do
  let waiting := (← get).reading.waiting
  modify fun shell => { shell with reading := { shell.reading with waiting := [] } }
  for document in waiting do readDocument nested whole document

end LineShell.Script
