import LineShell.Builtin
import LineShell.Environment
import LineShell.Failure
import LineShell.System
/-!
Commands once it is known what their name stands for, and what comes of running one.
-/

namespace LineShell

inductive CommandKind
  | builtin (builtin : Builtin)
  | external (program : Path)
  | notFound
deriving DecidableEq, Repr

structure Command where
  kind : CommandKind
  name : String
  arguments : List String
deriving DecidableEq, Repr

namespace Command

/-- What a name stands for: a builtin if there is one of the name, else a program. -/
def kindOf (system : System) (environment : Environment) (name : String) : CommandKind :=
  match Builtin.ofName? name with
  | some builtin => .builtin builtin
  | none =>
      match system.findCommand environment.searchPath environment.currentDir ⟨name⟩ with
      | some program => .external program
      | none => .notFound

theorem kindOf_eq_builtin_iff (system : System) (environment : Environment) (name : String)
    (builtin : Builtin) :
    kindOf system environment name = .builtin builtin ↔ name = builtin.name := by
  constructor
  · intro known
    unfold kindOf at known
    split at known
    · next found =>
        cases known
        exact (Builtin.name_of_ofName? found).symm
    · split at known <;> contradiction
  · rintro rfl
    simp only [kindOf, Builtin.ofName?_name]

theorem kindOf_of_found {system : System} {environment : Environment} {name : String} {program : Path}
    (free : Builtin.ofName? name = none)
    (found : system.findCommand environment.searchPath environment.currentDir ⟨name⟩ = some program) :
    kindOf system environment name = .external program := by
  simp only [kindOf, free, found]

theorem found_of_kindOf {system : System} {environment : Environment} {name : String} {program : Path}
    (kind : kindOf system environment name = .external program) :
    system.findCommand environment.searchPath environment.currentDir ⟨name⟩ = some program := by
  unfold kindOf at kind
  split at kind
  · contradiction
  · split at kind
    · next found =>
        cases kind
        exact found
    · contradiction

/-- The command that words make up; no words make none. -/
def resolve (system : System) (environment : Environment) : List String → Option Command
  | [] => none
  | name :: arguments => some { kind := kindOf system environment name, name, arguments }

end Command

/-- What comes of a command: its status and, if the shell itself failed, why. -/
structure Outcome where
  status : Int
  diagnostic : Option Failure := none
deriving DecidableEq, Repr

namespace Outcome

def notFoundStatus : Int := 127

/-- The status where the shell itself fails, or a program ends without a status of its own. -/
def failureStatus : Int := 1

def syntaxErrorStatus : Int := 2

def success : Outcome := { status := 0 }

def failed (failure : Failure) : Outcome :=
  { status := failureStatus, diagnostic := some failure }

end Outcome

end LineShell
