import LineShell.Path
/-!
What a session knows by name and where it works: the variables, the current directory and the wish to
end.
-/

namespace LineShell

/-- Variables with their values, in the order of the names. -/
abbrev Variables := List (String × String)

namespace Variables

def get? (entries : Variables) (name : String) : Option String :=
  entries.lookup name

def set (entries : Variables) (name value : String) : Variables :=
  match entries with
  | [] => [(name, value)]
  | entry :: rest =>
      if entry.1 = name then (name, value) :: rest
      else if name < entry.1 then (name, value) :: entry :: rest
      else entry :: set rest name value

def ofList (entries : List (String × String)) : Variables :=
  entries.foldl (fun earlier entry => set earlier entry.1 entry.2) []

/-- The texts by which a process gets variables: each is a name, an equals sign and a value. -/
def toBlock (entries : Variables) : List String :=
  entries.map fun entry => entry.1 ++ "=" ++ entry.2

/-- The name and the value that a text gives. The first character belongs to the name, whatever it is;
a text with no equals sign after it gives none. -/
def entry? (text : String) : Option (String × String) :=
  match text.toList with
  | [] => none
  | first :: rest =>
      match rest.dropWhile (· ≠ '=') with
      | [] => none
      | _ :: value =>
          some (String.ofList (first :: rest.takeWhile (· ≠ '=')), String.ofList value)

/-- The variables that a process is given by texts; of two values for a name the later one counts. -/
def ofBlock (block : List String) : Variables :=
  ofList (block.filterMap entry?)

/-- The value of the first text in a block that starts with a name and an equals sign. -/
def textOf? (block : List String) (name : String) : Option String :=
  block.findSome? fun text =>
    let start := (name ++ "=").toList
    if start.isPrefixOf text.toList then some (String.ofList (text.toList.drop start.length)) else none

theorem get?_set (entries : Variables) (name value other : String) :
    get? (set entries name value) other =
      if other = name then some value else get? entries other := by
  induction entries with
  | nil =>
      by_cases same : other = name
      · simp [set, get?, same]
      · simp [set, get?, List.lookup_cons, same, beq_eq_false_iff_ne.mpr same]
  | cons entry rest ih =>
      obtain ⟨key, old⟩ := entry
      simp only [set]
      split
      · next found =>
          subst found
          by_cases same : other = key
          · simp [get?, same]
          · simp [get?, List.lookup_cons, same, beq_eq_false_iff_ne.mpr same]
      · split
        · by_cases same : other = name
          · simp [get?, same]
          · simp [get?, List.lookup_cons, same, beq_eq_false_iff_ne.mpr same]
        · next missed _ =>
            by_cases first : other = key
            · subst first
              simp [get?, missed]
            · simpa [get?, List.lookup_cons, beq_eq_false_iff_ne.mpr first] using ih

end Variables

structure Environment where
  «variables» : Variables
  currentDir : Path
  shouldExit : Bool := false
deriving DecidableEq, Repr

namespace Environment

variable (environment : Environment)

def get? (name : String) : Option String :=
  environment.variables.get? name

def set (name value : String) : Environment :=
  { environment with «variables» := environment.variables.set name value }

/-- The directories to search for commands, not yet cut apart; empty without a `PATH`. -/
def searchPath : String :=
  (environment.get? "PATH").getD ""

/-- The directory that `HOME` names; an empty one names none. -/
def home : Option Path :=
  (environment.get? "HOME").filter (· ≠ "") |>.map Path.mk

end Environment

end LineShell
