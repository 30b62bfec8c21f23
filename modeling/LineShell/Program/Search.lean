import LineShell.Program.Loading
/-!
Running a program by its name. A name with a separator is a path; any other is tried in one directory
of the search path after the other, until one of the files there runs or fails in a way that says more
than that there is nothing to run.
-/

namespace LineShell.Program

/-- The interpreter of scripts that have no header. -/
def standardInterpreter : String := "/bin/sh"

/-- The directories searched where no variable says otherwise. -/
def standardSearchPath : String := "/bin:/usr/bin"

def isPassedOver (errno : Errno) : Bool :=
  [.accessDenied, .noEntry, .stale, .notDirectory, .noDevice, .timedOut].contains errno

/-- The bytes at the start of a file by which it is taken for text. -/
def textWindow : Nat := 128

/-- The bytes that text does not hold: those of control, save the ones that move or escape. -/
def isControl (byte : UInt8) : Bool :=
  byte < 9 || (16 ≤ byte && byte < 32 && byte ≠ 27) || byte = 127

/-- Whether a file is taken for text: its first line, as far as it is looked at, is free of control. -/
def isText : Node → Bool
  | .file _ bytes => ((bytes.take textWindow).takeWhile (· ≠ 10)).all (!isControl ·)
  | _ => true

namespace Scene

variable (scene : Scene)

/-- What running a file comes down to if a file that is no program is taken for a script. -/
def loadOrRead (path : String) (start : Start) : Except Errno Start :=
  match scene.load path start with
  | .error errno =>
      if errno = .execFormat then
        scene.load standardInterpreter ⟨standardInterpreter, path :: start.operands⟩
      else .error errno
  | loaded => loaded

/-- Tries paths in turn. Where all are passed over, the failure is that of the last, unless one of
them was denied. -/
def tryPaths (start : Start) (denied : Bool) (last : Errno) : List String → Except Errno Start
  | [] => .error (if denied then .accessDenied else last)
  | path :: rest =>
      match scene.loadOrRead path start with
      | .ok loaded => .ok loaded
      | .error errno =>
          if isPassedOver errno then
            tryPaths start (denied || errno = .accessDenied) errno rest
          else .error errno

/-- The path of a name in an entry of a search path; the empty entry is the working directory. -/
def entryPath (name : String) (entry : List Char) : String :=
  if entry = [] then name else String.ofList entry ++ "/" ++ name

def find (search : Option String) (start : Start) : Except Errno Start :=
  let name := start.self
  if name = "" then .error .noEntry
  else if name.toList.contains '/' then scene.load name start
  else
    let entries := (Text.fields ':' (search.getD standardSearchPath).toList).filter
      (·.length ≤ scene.files.limits.pathBytes)
    scene.tryPaths start false .noEntry (entries.map (entryPath name))

end Scene

end LineShell.Program
