import LineShell.Script.Word
/-!
How commands are read, token by token. Each function takes fuel, which no script in reach uses up.
-/

namespace LineShell.Script

/-- The commands that are part of the language: a failure in one ends the script, and no function may
have its name. -/
def specialBuiltins : List String :=
  [".", ":", "break", "continue", "eval", "exec", "exit", "export", "local", "readonly", "return",
    "set", "shift", "times", "trap", "unset"]

namespace Parser

/-! ## Tokens -/

def takePushedBack (shell : Shell) : Option Token × Shell :=
  if shell.reading.isPushedBack then
    (some shell.reading.last, { shell with reading := { shell.reading with isPushedBack := false } })
  else (none, shell)

/-- Puts the last token back, to be read again. -/
def pushBack : Action Unit :=
  modify fun shell => { shell with reading := { shell.reading with isPushedBack := true } }

def setLast (token : Token) : Action Token := do
  modify fun shell => { shell with reading := { shell.reading with last := token } }
  return token

/-- What the next token may be, besides what it is. -/
def expecting (newlines keyword aliased : Bool) : Action Unit :=
  modify fun shell =>
    { shell with
      reading :=
        { shell.reading with
          skipsNewlines := newlines, seeksKeyword := keyword, seeksAlias := aliased } }

def skipComment (fuel : Nat) : Action Unit :=
  match fuel with
  | 0 => return
  | fuel + 1 => do
      match ← nextChar with
      | none => return
      | some '\n' => unreadChar (some '\n')
      | some _ => skipComment fuel

/-- The operator that a character starts, which another may continue. -/
def operator (second : Char) (both one : Token) : Action Token := do
  let c ← nextUnescaped
  if c = some second then setLast both
  else
    unreadChar c
    setLast one

def redirection (descriptor : Option Nat) (isOutput : Bool) : Action Token := do
  let c ← nextUnescaped
  let redirect (least : Nat) (kind : RedirectKind) (dedents : Bool) : Action Token := do
    modify fun shell =>
      { shell with
        reading := { shell.reading with redirect := (descriptor.getD least, kind, dedents) } }
    setLast .redirect
  if isOutput then
    match c with
    | some '>' => redirect 1 .append false
    | some '|' => redirect 1 .overwrite false
    | some '&' => redirect 1 .duplicate false
    | _ => do
        unreadChar c
        redirect 1 .truncate false
  else
    match c with
    | some '<' => do
        let number := (← get).documents.size
        match ← nextUnescaped with
        | some '-' => redirect 0 (.document number) true
        | c => do
            unreadChar c
            redirect 0 (.document number) false
    | some '&' => redirect 0 .duplicate false
    | some '>' => redirect 0 .inputOutput false
    | _ => do
        unreadChar c
        redirect 0 .input false

/-- Whether a word stands before the angle of a redirection as its descriptor, if there is a word. -/
def descriptorOf? (word : Word) : Option (Option Nat) :=
  match word with
  | [] => some none
  | [.plain c] => if c.isDigit then some (some (c.toNat - '0'.toNat)) else none
  | _ => none

/-- Reads a word, or a redirection behind its descriptor. -/
def wordToken (nested whole : Action Statement) (c : Option Char) : Action Token := do
  let (lexing, next) ← symbols nested whole stepLimit { stretch := { rules := .bare } } c
  checkClosed lexing
  let word := lexing.symbols.reverse
  let isAngle := next = some '<' || next = some '>'
  match if isAngle && !lexing.isQuoted then descriptorOf? word else none with
  | some descriptor => redirection descriptor (next = some '>')
  | none => do
      unreadChar next
      modify fun shell =>
        { shell with
          reading := { shell.reading with word, isQuoted := lexing.isQuoted, last := .word } }
      return .word

def plainTokenFrom (nested whole : Action Statement) (fuel : Nat) : Action Token :=
  match fuel with
  | 0 => return .ending
  | fuel + 1 => do
      let c ← nextUnescaped
      match c with
      | none => setLast .ending
      | some ' ' | some '\t' => plainTokenFrom nested whole fuel
      | some '#' => do
          skipComment stepLimit
          plainTokenFrom nested whole fuel
      | some '\n' => do
          countLine
          setLast .newline
      | some '&' => operator '&' .andIf .ampersand
      | some '|' => operator '|' .orIf .pipe
      | some ';' => operator ';' .endOfBranch .semicolon
      | some '(' => setLast .opening
      | some ')' => setLast .closing
      | c => wordToken nested whole c

def plainToken (nested whole : Action Statement) : Action Token := do
  match ← modifyGet takePushedBack with
  | some token => return token
  | none => do
      payPrompt
      plainTokenFrom nested whole stepLimit

/-- Reads tokens up to one that is no newline. -/
def skipNewlines (nested whole : Action Statement) (fuel : Nat) (token : Token) : Action Token :=
  match fuel with
  | 0 => return token
  | fuel + 1 => do
      if token = .newline then
        readDocuments nested whole
        let token ← plainToken nested whole
        skipNewlines nested whole fuel token
      else return token

/-- Whether an alias is being read, so that its name stands for itself. -/
def isUsingAlias (shell : Shell) (name : String) : Bool :=
  (shell.source :: shell.outer).any (·.isUsing name)

/-- Reads the next token; `newlines`, `keyword` and `aliased` tell what it may be. -/
def tokenFrom (nested whole : Action Statement) (fuel : Nat) (newlines keyword aliased : Bool) :
    Action Token :=
  match fuel with
  | 0 => return .ending
  | fuel + 1 => do
      let token ← plainToken nested whole
      let token ←
        if newlines then skipNewlines nested whole stepLimit token else pure token
      let shell ← get
      let keyword := keyword || shell.reading.seeksKeyword
      let aliased := aliased || shell.reading.seeksAlias
      modify fun shell =>
        { shell with
          reading :=
            { shell.reading with
              skipsNewlines := false, seeksKeyword := false, seeksAlias := false,
              isDelimiter := false } }
      if token ≠ .word || shell.reading.isQuoted then return token
      else
        match shell.reading.word.bareText? with
        | none => return token
        | some text =>
            match if keyword then Keyword.ofText? text else none with
            | some keyword => setLast (.reserved keyword)
            | none =>
                match if aliased && !isUsingAlias shell text then shell.aliases.lookup text else none with
                | none => return token
                | some value => do
                    if value ≠ "" then
                      modify fun shell => { shell with source := shell.source.insert text value }
                    tokenFrom nested whole fuel newlines keyword aliased

/-! ## Commands -/

/-- Notes a document whose lines come behind the line at hand; the answer is its redirection. -/
def addDocument (descriptor : Nat) (number : Nat) (dedents : Bool) : Action Redirect := do
  modify fun shell =>
    let document : PendingDocument :=
      { number, dedents
        delimiter := shell.reading.word.characters
        substitutes := !shell.reading.isQuoted }
    { shell with
      documents := shell.documents.push []
      reading := { shell.reading with waiting := shell.reading.waiting ++ [document] } }
  return .redirect descriptor (.document number) []

def nameOf? (shell : Shell) : Option String :=
  shell.reading.word.bareText?.filter (isName ·.toList)

def isAssignment (word : Word) : Bool :=
  let name := word.takeWhile fun (symbol : Symbol) =>
    match symbol with
    | .plain c => isNameChar c
    | _ => false
  isName (Word.characters name) && match word.drop name.length with
    | .plain '=' :: _ => true
    | _ => false

/-- The parts of a simple command as far as they have been read, the last first. -/
structure SimpleParts where
  assignments : List Word := []
  words : List Word := []
  redirects : List Redirect := []

def SimpleParts.statement (parts : SimpleParts) (line : Nat) : Statement :=
  .simple line parts.assignments.reverse parts.words.reverse parts.redirects.reverse

def allArguments : Word :=
  [.quote, .parameter "@" .value false, .quote]

def inBackground : Statement → Statement
  | .pipeline stages _ => .pipeline stages true
  | .redirected line body redirects => .background line body redirects
  | statement => .background 0 statement []

def joined (first : Option Statement) (second : Statement) : Statement :=
  match first with
  | none => second
  | some first => .sequence first second

/-- How a list of commands goes on: it may be empty, it has to hold a command, or it ends with a line. -/
inductive ListKind
  | line
  | filled
  | empty
deriving DecidableEq, Repr

mutual

def token (fuel : Nat) : Action Token :=
  match fuel with
  | 0 => return .ending
  | fuel + 1 => do
      let reading := (← get).reading
      tokenFrom (nested fuel) (whole fuel) stepLimit reading.skipsNewlines reading.seeksKeyword
        reading.seeksAlias

def nested (fuel : Nat) : Action Statement :=
  match fuel with
  | 0 => return .nothing
  | fuel + 1 => do
      let waiting := (← get).reading.waiting
      modify fun shell => { shell with reading := { shell.reading with waiting := [] } }
      let body ← list fuel .empty none
      if (← token fuel) ≠ .closing then refuseToken (some .closing)
      pushSource {}
      readDocuments (nested fuel) (whole fuel)
      popSource
      modify fun shell => { shell with reading := { shell.reading with waiting } }
      return body

def whole (fuel : Nat) : Action Statement :=
  match fuel with
  | 0 => return .nothing
  | fuel + 1 => do
      let { waiting, continuation, .. } := (← get).reading
      modify fun shell =>
        { shell with reading := { shell.reading with waiting := [], continuation := none } }
      let body ← list fuel .empty none
      modify fun shell =>
        { shell with
          reading := { shell.reading with waiting, continuation, isPushedBack := false } }
      return body

def list (fuel : Nat) (kind : ListKind) (read : Option Statement) : Action Statement :=
  match fuel with
  | 0 => return .nothing
  | fuel + 1 => do
      Action.pause
      expecting (kind ≠ .line) true true
      let found ← token fuel
      match found with
      | .newline => do
          readDocuments (nested fuel) (whole fuel)
          return read.getD .nothing
      | .ending => do
          readDocuments (nested fuel) (whole fuel)
          pushBack
          let _ ← setLast .ending
          return read.getD .nothing
      | _ => do
          pushBack
          if kind = .empty && found.endsList then return read.getD .nothing
          else
            let first ← chain fuel
            let found ← token fuel
            let first := if found = .ampersand then inBackground first else first
            let read := joined read first
            let next := if kind = .line then .line else .empty
            match found with
            | .ending => do
                readDocuments (nested fuel) (whole fuel)
                pushBack
                let _ ← setLast .ending
                return read
            | .newline => do
                pushBack
                list fuel next (some read)
            | .ampersand | .semicolon => list fuel next (some read)
            | _ =>
                if kind = .line then refuseToken none
                else
                  pushBack
                  return read

def chain (fuel : Nat) : Action Statement :=
  match fuel with
  | 0 => return .nothing
  | fuel + 1 => do
      let first ← pipeline fuel
      chainFrom fuel first

def chainFrom (fuel : Nat) (first : Statement) : Action Statement :=
  match fuel with
  | 0 => return first
  | fuel + 1 => do
      match ← token fuel with
      | .andIf => do
          expecting true true true
          let second ← pipeline fuel
          chainFrom fuel (.both first second)
      | .orIf => do
          expecting true true true
          let second ← pipeline fuel
          chainFrom fuel (.either first second)
      | _ => do
          pushBack
          return first

def pipeline (fuel : Nat) : Action Statement :=
  match fuel with
  | 0 => return .nothing
  | fuel + 1 => do
      if (← token fuel) = .reserved .not then
        expecting false true true
        let body ← stages fuel
        return .negated body
      else
        pushBack
        stages fuel

def stages (fuel : Nat) : Action Statement :=
  match fuel with
  | 0 => return .nothing
  | fuel + 1 => do
      let first ← command fuel
      if (← token fuel) = .pipe then
        let others ← stagesFrom fuel [first]
        return .pipeline others false
      else
        pushBack
        return first

def stagesFrom (fuel : Nat) (read : List Statement) : Action (List Statement) :=
  match fuel with
  | 0 => return read.reverse
  | fuel + 1 => do
      expecting true true true
      let stage ← command fuel
      if (← token fuel) = .pipe then stagesFrom fuel (stage :: read)
      else
        pushBack
        return (stage :: read).reverse

def expect (fuel : Nat) (wanted : Token) : Action Unit :=
  match fuel with
  | 0 => return
  | fuel + 1 => do
      if (← token fuel) ≠ wanted then refuseToken (some wanted)

def command (fuel : Nat) : Action Statement :=
  match fuel with
  | 0 => return .nothing
  | fuel + 1 => do
      let line := (← get).source.line
      match ← token fuel with
      | .reserved .if => do
          let body ← branches fuel
          finish fuel line (.reserved .fi) body
      | .reserved .while => whileLoop fuel line false
      | .reserved .until => whileLoop fuel line true
      | .reserved .for => forLoop fuel line
      | .reserved .case => do
          expect fuel .word
          let subject := (← get).reading.word
          expecting true true true
          expect fuel (.reserved .in)
          let branches ← choices fuel []
          redirected fuel line (.choose line subject branches)
      | .opening => do
          let body ← list fuel .filled none
          finish fuel line .closing (.subshell line body [])
      | .reserved .opening => do
          let body ← list fuel .filled none
          finish fuel line (.reserved .closing) body
      | .word | .redirect => do
          pushBack
          simple fuel (← get).source.line true {}
      | _ => refuseToken none

/-- Reads the token that ends a compound command, and the redirections behind it. -/
def finish (fuel : Nat) (line : Nat) (wanted : Token) (body : Statement) : Action Statement :=
  match fuel with
  | 0 => return body
  | fuel + 1 => do
      expect fuel wanted
      redirected fuel line body

def redirected (fuel : Nat) (line : Nat) (body : Statement) : Action Statement :=
  match fuel with
  | 0 => return body
  | fuel + 1 => do
      expecting false true true
      match ← redirects fuel [] with
      | [] => return body
      | redirects =>
          match body with
          | .subshell line body _ => return .subshell line body redirects
          | body => return .redirected line body redirects

def redirects (fuel : Nat) (read : List Redirect) : Action (List Redirect) :=
  match fuel with
  | 0 => return read.reverse
  | fuel + 1 => do
      if (← token fuel) = .redirect then
        let redirect ← redirectTarget fuel
        redirects fuel (redirect :: read)
      else
        pushBack
        return read.reverse

def redirectTarget (fuel : Nat) : Action Redirect :=
  match fuel with
  | 0 => return .redirect 0 .input []
  | fuel + 1 => do
      let (descriptor, kind, dedents) := (← get).reading.redirect
      match kind with
      | .document _ => do
          modify fun shell =>
            { shell with reading := { shell.reading with isDelimiter := true } }
          if (← token fuel) ≠ .word then refuseToken none
          addDocument descriptor (← get).documents.size dedents
      | kind => do
          if (← token fuel) ≠ .word then refuseToken none
          return .redirect descriptor kind (← get).reading.word

def branches (fuel : Nat) : Action Statement :=
  match fuel with
  | 0 => return .nothing
  | fuel + 1 => do
      let condition ← list fuel .filled none
      expect fuel (.reserved .then)
      let consequence ← list fuel .filled none
      match ← token fuel with
      | .reserved .elif => do
          let alternative ← branches fuel
          return .conditional condition consequence (some alternative)
      | .reserved .else => do
          let alternative ← list fuel .filled none
          return .conditional condition consequence (some alternative)
      | _ => do
          pushBack
          return .conditional condition consequence none

def whileLoop (fuel : Nat) (line : Nat) (untilTrue : Bool) : Action Statement :=
  match fuel with
  | 0 => return .nothing
  | fuel + 1 => do
      let condition ← list fuel .filled none
      expect fuel (.reserved .do)
      let body ← list fuel .filled none
      finish fuel line (.reserved .done) (.loop untilTrue condition body)

def forLoop (fuel : Nat) (line : Nat) : Action Statement :=
  match fuel with
  | 0 => return .nothing
  | fuel + 1 => do
      let found ← token fuel
      let shell ← get
      match if found = .word && !shell.reading.isQuoted then nameOf? shell else none with
      | none => refuse .badLoopVariable
      | some name => do
          expecting true true true
          let words ← loopWords fuel
          expecting true true true
          expect fuel (.reserved .do)
          let body ← list fuel .filled none
          finish fuel line (.reserved .done) (.forEach line name words body)

/-- The words that a loop goes over: those that are listed, or else all arguments. -/
def loopWords (fuel : Nat) : Action (List Word) :=
  match fuel with
  | 0 => return []
  | fuel + 1 => do
      match ← token fuel with
      | .reserved .in => do
          let words ← wordList fuel []
          let last := (← get).reading.last
          if last = .newline || last = .semicolon then return words else refuseToken none
      | .semicolon => return [allArguments]
      | _ => do
          pushBack
          return [allArguments]

def wordList (fuel : Nat) (read : List Word) : Action (List Word) :=
  match fuel with
  | 0 => return read.reverse
  | fuel + 1 => do
      Action.pause
      if (← token fuel) = .word then wordList fuel ((← get).reading.word :: read)
      else return read.reverse

def choices (fuel : Nat) (read : List (List Word × Statement)) :
    Action (List (List Word × Statement)) :=
  match fuel with
  | 0 => return read.reverse
  | fuel + 1 => do
      expecting true true false
      match ← token fuel with
      | .reserved .esac => return read.reverse
      | first => do
          if first = .opening then
            let _ ← token fuel
          let patterns ← patterns fuel []
          if (← get).reading.last ≠ .closing then refuseToken (some .closing)
          let body ← list fuel .empty none
          expecting true true false
          match ← token fuel with
          | .reserved .esac => return ((patterns, body) :: read).reverse
          | .endOfBranch => choices fuel ((patterns, body) :: read)
          | _ => refuseToken (some .endOfBranch)

/-- Reads the patterns of a branch, the first of which has been read, up to the token behind them. -/
def patterns (fuel : Nat) (read : List Word) : Action (List Word) :=
  match fuel with
  | 0 => return read.reverse
  | fuel + 1 => do
      let read := (← get).reading.word :: read
      if (← token fuel) = .pipe then
        let _ ← token fuel
        patterns fuel read
      else return read.reverse

/-- Reads the assignments, words and redirections of a simple command, or a function. -/
def simple (fuel : Nat) (line : Nat) (isStart : Bool) (parts : SimpleParts) : Action Statement :=
  match fuel with
  | 0 => return .nothing
  | fuel + 1 => do
      Action.pause
      expecting false false isStart
      match ← token fuel with
      | .word => do
          let word := (← get).reading.word
          if isStart && isAssignment word then
            simple fuel line true { parts with assignments := word :: parts.assignments }
          else simple fuel line false { parts with words := word :: parts.words }
      | .redirect => do
          let redirect ← redirectTarget fuel
          simple fuel line isStart { parts with redirects := redirect :: parts.redirects }
      | .opening =>
          match parts.assignments, parts.words, parts.redirects with
          | [], [name], [] => function fuel name
          | _, _, _ => do
              pushBack
              return parts.statement line
      | _ => do
          pushBack
          return parts.statement line

def function (fuel : Nat) (name : Word) : Action Statement :=
  match fuel with
  | 0 => return .nothing
  | fuel + 1 => do
      expect fuel .closing
      match name.bareText?.filter fun name =>
          isName name.toList && !specialBuiltins.contains name with
      | none => refuse .badFunctionName
      | some name => do
          expecting true true true
          let line := (← get).source.line
          let body ← command fuel
          return .function name line body

end

def depthLimit : Nat := Nat.pow 2 40

/-- Reads commands up to the end of their line; at the end of the text there are none. A text may be shown
where commands go on in another line. -/
def readCommand (continuation : Option String) : Action (Option Statement) := do
  modify fun shell => { shell with reading := { continuation } }
  let statement ← list depthLimit .line none
  let last := (← get).reading.last
  if statement.isNothing && last = .ending then return none else return some statement

end Parser

end LineShell.Script
