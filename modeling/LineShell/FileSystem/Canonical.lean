import LineShell.FileSystem.Walk
/-!
The canonical place of a path. It is found name by name, and each name is looked up by the whole path of
the place come to so far. So the path to be followed may be of any length, but no place on the way may have
a path that is too long. A stream that a process has open has no place, and so no canonical one.
-/

namespace LineShell

namespace FileSystem

variable (files : FileSystem)

/-- What is put behind the path of a place to tell whether it is a directory. -/
def directoryMark : String := "/./"

/-- Whether steps ask for a directory before they lead on by a name. -/
def asksForDirectory (steps : List Step) : Bool :=
  steps ≠ [] &&
    match steps.dropWhile (· = .stay) with
    | .down _ :: _ => false
    | _ => true

/-- Whether the path of a place, with some bytes behind it, is too long to be looked up. -/
def isOutOfReach (location : Location) (behind : Nat) : Bool :=
  files.limits.pathBytes < location.path.text.utf8ByteSize + behind

/-- Follows steps from a place, with a budget of links. -/
def canonicalWalk (links : Nat) (here : Location) : List Step → Except Errno Location
  | [] => .ok here
  | .stay :: rest => canonicalWalk links here rest
  | .up :: rest => canonicalWalk links here.dropLast rest
  | .down name :: rest =>
      let there := here ++ [name]
      if files.isOutOfReach there 0 then .error .nameTooLong
      else if !files.isDirectory here then .error .notDirectory
      else if files.limits.nameBytes < name.utf8ByteSize then .error .nameTooLong
      else match files.node? there with
        | none | some (.device (.descriptor _)) => .error .noEntry
        | some (.link target) =>
            match links with
            | 0 => .error .tooManyLinks
            | links + 1 =>
                let route := Route.ofPath target
                canonicalWalk links (route.start here) (route.allSteps ++ rest)
        | some node =>
            if !asksForDirectory rest then canonicalWalk links there rest
            else if files.isOutOfReach there directoryMark.utf8ByteSize then .error .nameTooLong
            else if node ≠ .directory then .error .notDirectory
            else canonicalWalk links there rest
termination_by steps => (links, steps.length)

/-- The place that a path leads to, links followed, however long the path is. Nothing is found from a
working directory that is gone. -/
def canonicalize (here : Location) (path : Path) : Except IoError Location := do
  checkPath path
  let route := Route.ofPath path
  let start := route.start here
  if !files.isDirectory start then throw (.system .noEntry)
  match files.canonicalWalk files.limits.links start route.allSteps with
  | .ok location => return location
  | .error errno => throw (.system errno)

end FileSystem

end LineShell
