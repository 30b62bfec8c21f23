/-!
Scripts: the command language in which the programs of the system are written. A script is a text of
bytes, one character each.
-/

namespace LineShell.Script

/-- What is made of the value of a parameter. Those that take a word have it behind them, up to a mark
of its end. -/
inductive ParameterUse
  | value
  | length
  | otherwise
  | instead
  /-- The value; without one the script ends. -/
  | required
  /-- The value, which becomes that of the word if there is none. -/
  | assigned
  /-- The value without an end that the word fits as a pattern. -/
  | trimmedBack (longest : Bool)
  /-- The value without a start that the word fits as a pattern. -/
  | trimmedFront (longest : Bool)
  | unknown
deriving DecidableEq, Repr

inductive RedirectKind
  | truncate
  | overwrite
  | append
  | input
  | inputOutput
  | duplicate
  /-- The input is a text in the script, the document of some number. -/
  | document (number : Nat)
deriving DecidableEq, Repr

mutual

/-- A part of a word. A word is a row of them in which those that belong together enclose others. -/
inductive Symbol
  | plain (c : Char)
  | escaped (c : Char)
  | quote
  /-- A parameter; an empty value counts as none if `orEmpty` is set. -/
  | parameter (name : String) (use : ParameterUse) (orEmpty : Bool)
  | endParameter
  | output (script : Statement)
  | arithmetic
  | endArithmetic

inductive Redirect
  | redirect (descriptor : Nat) (kind : RedirectKind) (target : List Symbol)

/-- Commands. A command knows the line on which it stands. -/
inductive Statement
  | nothing
  | simple (line : Nat) (assignments words : List (List Symbol)) (redirects : List Redirect)
  | pipeline (stages : List Statement) (inBackground : Bool)
  | negated (body : Statement)
  | sequence (first second : Statement)
  | both (first second : Statement)
  | either (first second : Statement)
  | conditional (condition consequence : Statement) (alternative : Option Statement)
  /-- Runs a body as long as a condition succeeds or, with `untilTrue`, fails. -/
  | loop (untilTrue : Bool) (condition body : Statement)
  | forEach (line : Nat) (name : String) (words : List (List Symbol)) (body : Statement)
  | choose (line : Nat) (subject : List Symbol) (branches : List (List (List Symbol) × Statement))
  | redirected (line : Nat) (body : Statement) (redirects : List Redirect)
  | subshell (line : Nat) (body : Statement) (redirects : List Redirect)
  | background (line : Nat) (body : Statement) (redirects : List Redirect)
  | function (name : String) (line : Nat) (body : Statement)

end

abbrev Word := List Symbol

namespace Statement

def isNothing : Statement → Bool
  | nothing => true
  | _ => false

end Statement

namespace Word

def bareText? (word : Word) : Option String :=
  (word.mapM fun (symbol : Symbol) =>
    match symbol with
    | .plain c => some c
    | _ => none).map String.ofList

def characters (word : Word) : List Char :=
  word.filterMap fun (symbol : Symbol) =>
    match symbol with
    | .plain c | .escaped c => some c
    | _ => none

end Word

end LineShell.Script
