import LineShell.System
/-!
Trees set up from outside: what is put into them, taken away and listed, without a shell.
-/

namespace LineShell

/-- Something to put into a tree. -/
inductive Plant
  | directory
  | link (target : Path)
  | file (mode : Nat) (bytes : Bytes)
deriving DecidableEq, Repr

namespace FileSystem

/-- Makes the directories that steps lead through, where they are missing. -/
def makeDirectories (files : FileSystem) (here : Location) (steps : List Step) :
    FileSystem × Location :=
  match steps with
  | [] => (files, here)
  | step :: rest =>
      match step, files.walk files.limits.links here [step] with
      | _, .ok (there, _) => makeDirectories files there rest
      | .down name, .error _ =>
          makeDirectories (files.put (here ++ [name]) .directory) (here ++ [name]) rest
      | _, .error _ => (files, here)

/-- Puts something at a path, with the directories above it. A file goes to where a link at that path
leads, and takes the place of what is there. -/
def plant (files : FileSystem) (here : Location) (path : Path) (plant : Plant) : FileSystem :=
  let route := Route.ofPath path
  let (files, parent) := files.makeDirectories (route.start here) route.steps.dropLast
  match route.steps.getLast? with
  | some (.down name) =>
      let place := parent ++ [name]
      match plant with
      | .directory => (files.makeDirectories parent [.down name]).1
      | .link target => files.put place (.link target)
      | .file mode bytes =>
          match files.writeTarget files.limits.links parent ⟨false, [.down name], false⟩ with
          | .ok target => files.put target (.file mode bytes)
          | .error _ => files.put place (.file mode bytes)
  | _ => files

/-- The name of an entry in a listing; a directory shows by a separator at its end. -/
def listedName (location : Location) (node : Node) : String :=
  let name := "/".intercalate location
  if node = .directory then name ++ "/" else name

/-- All that stands below a place, in the order of the names. -/
def listing (files : FileSystem) (here : Location) : List (String × Node) :=
  let below := files.entries.filter fun entry => here.isPrefixOf entry.1 && entry.1 ≠ here
  let named := below.map fun (location, node) => (listedName (location.drop here.length) node, node)
  named.mergeSort fun left right => left.1 ≤ right.1

end FileSystem

namespace System

/-- Takes away what stands at a path, with all below it; a link goes and its target stays. A process
that works in a directory taken away stays in it. -/
def uproot (system : System) (here : Location) (path : Path) : System :=
  match system.files.placeAt? here path with
  | none => system
  | some place =>
      { system with
        files := system.files.remove place
        workingDir :=
          if place.isPrefixOf system.workingDir then system.workingDir.lost (place.length - 1)
          else system.workingDir }

end System

end LineShell
