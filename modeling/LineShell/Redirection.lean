import LineShell.Path
/-!
The output redirection of a command, parted from its words.
-/

namespace LineShell

/-- Where a command's output goes in place of the shell's own. -/
structure Redirection where
  target : Path
  /-- Add to the file instead of starting it anew. -/
  append : Bool
deriving DecidableEq, Repr

/-- A word that asks for a redirection. -/
inductive RedirectionOperator
  | standalone (append : Bool)
  | merged (append : Bool) (target : List Char)
deriving DecidableEq, Repr

namespace RedirectionOperator

def ofChars? : List Char → Option RedirectionOperator
  | ['>'] => some (.standalone false)
  | ['1', '>'] => some (.standalone false)
  | ['>', '>'] => some (.standalone true)
  | '>' :: '>' :: target => some (.merged true target)
  | '>' :: target => some (.merged false target)
  | _ => none

def ofWord? (word : String) : Option RedirectionOperator :=
  ofChars? word.toList

end RedirectionOperator

/-- A redirection operator stands last on the line. -/
structure MissingOutputFile where
  operator : String
deriving DecidableEq, Repr

/-- The words of a command and where its output goes. -/
structure CommandLine where
  argv : List String
  redirect : Option Redirection
deriving DecidableEq, Repr

namespace CommandLine

/-- The first redirection of the words takes effect; it and all that follows it are no part of
the command. -/
def ofWords : List String → Except MissingOutputFile CommandLine
  | [] => .ok ⟨[], none⟩
  | word :: rest =>
      match RedirectionOperator.ofWord? word with
      | some (.merged append target) => .ok ⟨[], some ⟨⟨String.ofList target⟩, append⟩⟩
      | some (.standalone append) =>
          match rest with
          | [] => .error ⟨word⟩
          | target :: _ => .ok ⟨[], some ⟨⟨target⟩, append⟩⟩
      | none => do
          let command ← ofWords rest
          return { command with argv := word :: command.argv }

end CommandLine

end LineShell
