import LineShell.FileSystem.Walk
/-!
Files opened for writing. Opening makes the file if it is missing; a write goes to the end of a file
that is added to, and to the place where the last write ended in any other.
-/

namespace LineShell

/-- A file that is open for writing. -/
structure OpenFile where
  location : Location
  append : Bool
  /-- Where the next write starts, unless the file is added to. -/
  offset : Nat := 0
deriving DecidableEq, Repr

/-- Bytes with others written over them from an offset on; a gap is filled with zeros. -/
def Bytes.overwrite (old : Bytes) (offset : Nat) (new : Bytes) : Bytes :=
  old.take offset ++ List.replicate (offset - old.length) 0 ++ new ++ old.drop (offset + new.length)

/-- What an open call asks for. -/
structure Opening where
  writes : Bool := false
  creates : Bool := false
  isNew : Bool := false
  truncates : Bool := false
  append : Bool := false
deriving DecidableEq, Repr

namespace Opening

def truncate : Opening := { writes := true, creates := true, truncates := true }

def extend : Opening := { writes := true, creates := true, append := true }

/-- Opens a file to write to it from its start on, and to read it. -/
def update : Opening := { writes := true, creates := true }

/-- Opens a file to write to it, but makes none. -/
def present : Opening := { writes := true }

/-- Makes a file that must not be there yet. -/
def fresh : Opening := { writes := true, creates := true, isNew := true }

def read : Opening := {}

end Opening

namespace FileSystem

variable (files : FileSystem)

def freshMode : Nat := 0o644

/-- Whether nothing can be put into a directory: the system itself keeps those of the processes. -/
def isKept (location : Location) : Bool :=
  location.head? = some "proc"

/-- The place at which a path is opened for writing, which may still be free. The last name is looked
up by itself, and a link there leads on to the path it holds. -/
def writeTarget (links : Nat) (here : Location) (route : Route) : Except Errno Location :=
  match route.steps.getLast? with
  | none => .error .isDirectory
  | some last =>
      match found : files.walk links (route.start here) route.steps.dropLast with
      | .error errno => .error errno
      | .ok (parent, left) =>
          match files.node? parent with
          | none => .error .noEntry
          | some .directory =>
              match last with
              | .stay => .error .isDirectory
              | .up => .error .isDirectory
              | .down name =>
                  if route.trailing then .error .isDirectory
                  else if files.limits.nameBytes < name.utf8ByteSize then .error .nameTooLong
                  else match files.node? (parent ++ [name]) with
                    | some (.link target) =>
                        match left, found with
                        | 0, _ => .error .tooManyLinks
                        | left + 1, _ => writeTarget left parent (Route.ofPath target)
                    | some .directory => .error .isDirectory
                    | none => if isKept parent then .error .noEntry else .ok (parent ++ [name])
                    | some _ => .ok (parent ++ [name])
          | some _ => .error .notDirectory
termination_by links
decreasing_by exact Nat.lt_of_succ_le (files.walk_links_le (by assumption))

/-- The place that an open call leads to, and the files after it. -/
def openAt (here : Location) (path : Path) (opening : Opening) (mode : Nat) :
    Except IoError (Location × FileSystem) := do
  checkPath path
  files.checkLength path
  if opening.isNew && (files.lstat here path).isOk then throw (.system .fileExists)
  let location ←
    if opening.creates then
      match files.writeTarget files.limits.links here (Route.ofPath path) with
      | .error errno => throw (.system errno)
      | .ok location => pure location
    else files.locate here path
  match files.node? location with
  | none => return (location, files.put location (.file mode []))
  | some (.file mode _) =>
      return (location, if opening.truncates then files.put location (.file mode []) else files)
  | some .directory =>
      if opening.writes then throw (.system .isDirectory) else return (location, files)
  | some (.device .terminal) => throw (.system .noAddress)
  | some .interpreter =>
      if opening.writes then throw (.system .textBusy) else return (location, files)
  | some (.device _) | some (.link _) => return (location, files)

/-- Opens a path for writing, to add to the file or to start it anew. -/
def openForWriting (here : Location) (path : Path) (append : Bool) :
    Except IoError (OpenFile × FileSystem) := do
  let (location, files) ← files.openAt here path (if append then .extend else .truncate) freshMode
  return ({ location, append }, files)

/-- Writes to an open file. What is written to a file that is gone in the meantime is lost. -/
def write (file : OpenFile) (bytes : Bytes) : Except IoError (OpenFile × FileSystem) :=
  match files.node? file.location with
  | some (.file mode old) =>
      let start := if file.append then old.length else file.offset
      .ok ({ file with offset := start + bytes.length },
        files.put file.location (.file mode (Bytes.overwrite old start bytes)))
  | some (.device .full) =>
      if bytes = [] then .ok (file, files) else .error (.system .noSpace)
  | _ => .ok (file, files)

end FileSystem

end LineShell
