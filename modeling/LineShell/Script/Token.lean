import LineShell.Script.Syntax
/-!
The tokens of a script, the ways in which a script may fail to be readable, and the texts that it is
read from.
-/

namespace LineShell.Script

inductive Keyword
  | not | case | do | done | elif | else | esac | fi | for | if | in | then | until | while
  | opening | closing
deriving DecidableEq, Repr

namespace Keyword

def all : List (String × Keyword) :=
  [ ("!", .not), ("case", .case), ("do", .do), ("done", .done), ("elif", .elif), ("else", .else),
    ("esac", .esac), ("fi", .fi), ("for", .for), ("if", .if), ("in", .in), ("then", .then),
    ("until", .until), ("while", .while), ("\x7b", .opening), ("\x7d", .closing) ]

def ofText? (text : String) : Option Keyword :=
  all.lookup text

def text (keyword : Keyword) : String :=
  ((all.find? (·.2 = keyword)).map (·.1)).getD ""

end Keyword

inductive Token
  | ending
  | newline
  | semicolon
  | ampersand
  | andIf
  | orIf
  | pipe
  | opening
  | closing
  | endOfBranch
  | redirect
  | word
  | reserved (keyword : Keyword)
deriving DecidableEq, Repr

namespace Token

def shown : Token → String
  | ending => "end of file"
  | newline => "newline"
  | semicolon => "\";\""
  | ampersand => "\"&\""
  | andIf => "\"&&\""
  | orIf => "\"||\""
  | pipe => "\"|\""
  | opening => "\"(\""
  | closing => "\")\""
  | endOfBranch => "\";;\""
  | redirect => "redirection"
  | word => "word"
  | reserved keyword => "\"" ++ keyword.text ++ "\""

/-- Whether a list of commands may end before a token. -/
def endsList : Token → Bool
  | ending | closing | endOfBranch => true
  | reserved keyword => [.do, .done, .elif, .else, .esac, .fi, .then, .closing].contains keyword
  | _ => false

end Token

/-- Why a script cannot be read. -/
inductive SyntaxFault
  | unterminatedQuote
  | unterminatedBackquote
  | missingBrace
  | missingParentheses
  | badLoopVariable
  | badFunctionName
  | badDescriptor
  | unexpected (found : Token) (expected : Option Token)
deriving DecidableEq, Repr

def SyntaxFault.message : SyntaxFault → String
  | unterminatedQuote => "Unterminated quoted string"
  | unterminatedBackquote => "EOF in backquote substitution"
  | missingBrace => "Missing '\x7d'"
  | missingParentheses => "Missing '))'"
  | badLoopVariable => "Bad for loop variable"
  | badFunctionName => "Bad function name"
  | badDescriptor => "Bad fd number"
  | unexpected found none => found.shown ++ " unexpected"
  | unexpected found (some expected) =>
      found.shown ++ " unexpected (expecting " ++ expected.shown ++ ")"

/-- A text that is read before what is left of another: that of an alias is read in the place of its name. -/
structure Insertion where
  name : String
  rest : List Char
  /-- The text ends with a blank, so the word after it may be an alias too. -/
  endsBlank : Bool
  /-- Aliases that were done just before this one, which may not come up again before it is done. -/
  held : List String := []

/-- A text that is being read. -/
structure Source where
  descriptor : Option Nat := none
  line : Nat := 1
  /-- What is left of the line at hand, or of the whole text if there is no more of it. -/
  chars : List Char := []
  ahead : List Char := []
  isOver : Bool := false
  insertions : List Insertion := []
  released : List String := []
  /-- The character behind a backslash that was the last one of an inserted text. If the backslash is put
  back, this character takes its place. -/
  successor : Option Char := none

namespace Source

variable (source : Source)

def isUsing (name : String) : Bool :=
  source.released.contains name ||
    source.insertions.any fun insertion => insertion.name = name || insertion.held.contains name

def unread (c : Char) : Source :=
  let c := source.successor.getD c
  let source := { source with successor := none }
  match source.insertions with
  | [] => { source with chars := c :: source.chars }
  | top :: others => { source with insertions := { top with rest := c :: top.rest } :: others }

/-- Puts the text of an alias before what is left. -/
def insert (name text : String) : Source :=
  let chars := text.toList
  let endsBlank := chars.getLast?.any fun c => c = ' ' || c = '\t'
  { source with
    insertions := { name, rest := chars, endsBlank, held := source.released } :: source.insertions
    released := [] }

end Source

/-- A document whose lines have not been read yet. -/
structure PendingDocument where
  number : Nat
  delimiter : List Char
  /-- Tabs at the start of its lines do not count. -/
  dedents : Bool
  substitutes : Bool

/-- Where the reading of a script has got to within a command. -/
structure Reading where
  isPushedBack : Bool := false
  last : Token := .ending
  word : Word := []
  isQuoted : Bool := false
  /-- The last redirection, and whether tabs count in its document. -/
  redirect : Nat × RedirectKind × Bool := (0, .input, false)
  /-- In the next token newlines do not count. -/
  skipsNewlines : Bool := false
  seeksKeyword : Bool := false
  seeksAlias : Bool := false
  isDelimiter : Bool := false
  waiting : List PendingDocument := []
  continuation : Option String := none
  /-- That is to be shown before anything more is read. -/
  owesPrompt : Bool := false

end LineShell.Script
