/-!
The commands that the shell runs itself.
-/

namespace LineShell

inductive Builtin
  | echo
  | cd
  | pwd
  | exit
  | type
  | history
deriving DecidableEq, Repr

namespace Builtin

/-- All of them, in the order in which they are listed. -/
def all : List Builtin :=
  [echo, cd, pwd, exit, type, history]

def name : Builtin → String
  | echo => "echo"
  | cd => "cd"
  | pwd => "pwd"
  | exit => "exit"
  | type => "type"
  | history => "history"

def ofName? (name : String) : Option Builtin :=
  all.find? (·.name = name)

def honorsRedirection : Builtin → Bool
  | echo => true
  | _ => false

theorem ofName?_name (builtin : Builtin) : ofName? builtin.name = some builtin := by
  cases builtin <;> decide

theorem name_of_ofName? {name : String} {builtin : Builtin} (found : ofName? name = some builtin) :
    builtin.name = name := by
  simpa using List.find?_some found

end Builtin

end LineShell
