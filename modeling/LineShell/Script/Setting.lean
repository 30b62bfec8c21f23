import LineShell.Script.Message
/-!
The options of a script: what turns them on and off, and how they are shown.
-/

namespace LineShell.Script

/-- The options, with the letters of those that have one. -/
def optionTable : List (String × Option Char) :=
  [ ("errexit", some 'e'), ("noglob", some 'f'), ("ignoreeof", some 'I'),
    ("interactive", some 'i'), ("monitor", some 'm'), ("noexec", some 'n'), ("stdin", some 's'),
    ("xtrace", some 'x'), ("verbose", some 'v'), ("vi", some 'V'), ("emacs", some 'E'),
    ("noclobber", some 'C'), ("allexport", some 'a'), ("notify", some 'b'), ("nounset", some 'u'),
    ("privileged", some 'p'), ("nolog", none), ("debug", none) ]

def optionSign (isOn : Bool) : String :=
  if isOn then "-" else "+"

namespace Shell

variable (shell : Shell)

def setOption (name : String) (isOn : Bool) : Shell :=
  let others := shell.options.filter (· ≠ name)
  { shell with
    options := if isOn then name :: others else others
    undecided := shell.undecided.filter (· ≠ name) }

/-- The letters of the options that are on, the last option first. -/
def optionLetters : String :=
  String.ofList (optionTable.reverse.filterMap fun (name, letter) =>
    if shell.has name then letter else none)

end Shell

/-- Turns an option on or off that goes by a letter. Of the two ways to edit lines one excludes the
other. -/
def setLetter (letter : Char) (isOn : Bool) : Action Unit := do
  match optionTable.find? fun entry => entry.2 = some letter with
  | none => fail s!"Illegal option -{letter}"
  | some (name, _) => do
      modify (·.setOption name isOn)
      if isOn && name = "vi" then modify (·.setOption "emacs" false)
      if isOn && name = "emacs" then modify (·.setOption "vi" false)

def setNamed (name : String) (isOn : Bool) : Action Unit := do
  if (optionTable.lookup name).isSome then modify (·.setOption name isOn)
  else fail s!"Illegal option -o {name}"

/-- Shows all options, for people to read or for scripts to set them again. One of which nothing has been
said yet shows as if it were on. -/
def listOptions (isReadable : Bool) : Action Unit := do
  let shell ← get
  if isReadable then print "Current option settings\n"
  for (name, _) in optionTable do
    let isOn := shell.has name || shell.undecided.contains name
    if isReadable then
      print (String.ofList (name.toList.rightpad 16 ' ') ++ (if isOn then "on\n" else "off\n"))
    else print ("set " ++ optionSign isOn ++ "o " ++ name ++ "\n")

end LineShell.Script
