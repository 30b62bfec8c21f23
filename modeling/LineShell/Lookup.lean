import LineShell.FileSystem.Walk
/-!
Finding the program that a command names.
-/

namespace LineShell

namespace SearchPath

/-- The directories of a search path; an empty entry names none. -/
def directories (search : String) : List Path :=
  ((Text.fields ':' search.toList).filter (· ≠ [])).map fun entry => ⟨String.ofList entry⟩

end SearchPath

namespace FileSystem

variable (files : FileSystem) (here : Location)

/-- The first place on a search path where an executable file of the name stands. -/
def searchFor (search : String) (name : Path) : Option Path :=
  ((SearchPath.directories search).map (·.join name)).find? (files.isExecutable here ·)

/-- The program that a command names. An absolute path is tried as it is; a path of one component is
looked for along the search path; any other starts from the current directory. -/
def findCommand (search : String) (currentDir command : Path) : Option Path :=
  if command.isAbsolute then
    if files.isExecutable here command then some command else none
  else match command.components with
    | [] => none
    | [component] => files.searchFor here search ⟨component.text⟩
    | _ =>
        let path := currentDir.join command
        if files.isExecutable here path then some path else none

end FileSystem

end LineShell
