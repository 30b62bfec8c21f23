import LineShell.Program.Search
import LineShell.Script.Parser
import LineShell.Script.Variable
/-!
What the names of commands stand for, and how a script has a program take its place.
-/

namespace LineShell.Script

open Program (Scene Start)

def standardSearchPath : String :=
  "/usr/local/sbin:/usr/local/bin:/usr/sbin:/usr/bin:/sbin:/bin"

/-- The commands that scripts run without a program. -/
def builtins : List String :=
  [ ".", ":", "[", "alias", "bg", "break", "cd", "chdir", "command", "continue", "echo", "eval",
    "exec", "exit", "export", "false", "fg", "getopts", "hash", "jobs", "kill", "local", "printf",
    "pwd", "read", "readonly", "return", "set", "shift", "test", "times", "trap", "true", "type",
    "ulimit", "umask", "unalias", "unset", "wait" ]

def assigningBuiltins : List String :=
  ["alias", "export", "local", "readonly"]

inductive Command
  | builtin (name : String)
  | function (function : Function)
  /-- A program at a path, or from an entry of the search path on. -/
  | program (index : Option Nat)
  | unknown

/-- How a name is looked up. -/
structure Search where
  /-- The search path; none is that of the script, whose results are kept. -/
  path : Option String := none
  skipsFunctions : Bool := false
  skipsFiles : Bool := false
  checksPaths : Bool := false
  complains : Bool := false

namespace Shell

variable (shell : Shell)

def searchPath : String :=
  (shell.value? "PATH").getD ""

end Shell

/-- The paths at which a name may stand, in the order of a search path. -/
def candidates (search name : String) : List String :=
  (Text.fields ':' search.toList).map (Scene.entryPath name)

def statAt (id : Nat) (machine : Kernel.Machine) (path : String) : Except IoError Node :=
  match machine.task? id with
  | none => .error (.system .noEntry)
  | some task => (machine.filesOf id).stat task.workingDir (Octets.toPath path)

/-- The first of some paths, counted on from an index, that leads to a program. Those up to the index
known before are not looked at again if they do not depend on the working directory. -/
def firstProgram (stat : String → Except IoError Node) (known : Option Nat) (errno : Errno)
    (index : Nat) : List String → Except Errno Nat
  | [] => .error errno
  | path :: rest =>
      let isKnown := (Path.mk path).isAbsolute && known.any (index ≤ ·)
      if isKnown && known = some index then .ok index
      else if isKnown then firstProgram stat known errno (index + 1) rest
      else
        match stat path with
        | .ok node =>
            if node.isExecutable then .ok index
            else firstProgram stat known .accessDenied (index + 1) rest
        | .error (.system cause) =>
            let errno := if cause = .noEntry || cause = .notDirectory then errno else cause
            firstProgram stat known errno (index + 1) rest
        | .error _ => firstProgram stat known errno (index + 1) rest

/-- Why no program can be run, as scripts are told. -/
def programReason (errno : Errno) : String :=
  if errno = .noEntry || errno = .notDirectory then "not found" else errno.description

def findProgram (search : Search) (name : String) : Action Command := do
  let shell ← get
  let known := if search.path.isNone then shell.tracked.lookup name else none
  match known.filter (!·.isStale) with
  | some tracked => return .program (some tracked.index)
  | none =>
      if search.skipsFiles then return .unknown
      else
        let path := search.path.getD shell.searchPath
        let found ← Action.ask fun id machine =>
          firstProgram (statAt id machine) (known.map (·.index)) .noEntry 0 (candidates path name)
        match found with
        | .ok index => do
            if search.path.isNone then
              let others := (← get).tracked.filter (·.1 ≠ name)
              modify fun shell => { shell with
                tracked := if known.isSome
                  then shell.tracked.map fun entry =>
                    if entry.1 = name then (name, { index }) else entry
                  else others ++ [(name, { index })] }
            return .program (some index)
        | .error errno => do
            if search.path.isNone then
              modify fun shell => { shell with tracked := eraseNamed name shell.tracked }
            if search.complains then complain s!"{name}: {programReason errno}"
            return .unknown

def findCommand (search : Search) (name : String) : Action Command := do
  if name.toList.contains '/' then
    let exists? ← Action.ask fun id machine => (statAt id machine name).isOk
    return if search.checksPaths && !exists? then .unknown else .program none
  else
    let functions := (← get).functions
    match if search.skipsFunctions then none else functions.lookup name with
    | some function => return .function function
    | none =>
        if builtins.contains name then return .builtin name else findProgram search name

/-! ## Programs -/

/-- The greatest number of bytes that a text given to a program may have. -/
def textLimit : Nat := 131071

/-- The greatest number of bytes that all texts given to a program may take up. -/
def blockLimit : Nat := 2097152

def isTooLong (texts : List String) : Bool :=
  texts.any (textLimit < ·.length) ||
    blockLimit < texts.foldl (fun total text => total + text.length + 9) 0

def sceneOf (id : Nat) (machine : Kernel.Machine) : Scene where
  files := machine.filesOf id
  workingDir := ((machine.task? id).map (·.workingDir)).getD []
  written := machine.written

/-- What running the file at a path comes down to. A file that is neither program nor text is not
taken for a script. -/
def loadAt (scene : Scene) (block : List String) (start : Start) (path : String) :
    Except Errno Start := do
  let node ← scene.openProgram (Octets.toPath path)
  if isTooLong (path :: start.operands ++ block) then throw .argumentsTooLong
  else if Program.isText node then scene.loadOrRead path start
  else scene.load path start

/-- What running the first of some paths that can be run comes down to. -/
def loadFirst (load : String → Except Errno Start) (errno : Errno) : List String → Except Errno Start
  | [] => .error errno
  | path :: rest =>
      match load path with
      | .ok loaded => .ok loaded
      | .error cause =>
          loadFirst load (if cause = .noEntry || cause = .notDirectory then errno else cause) rest

/-- What running a program comes down to, from an entry of a search path on. -/
def loadProgram (scene : Scene) (search : String) (index : Nat) (block : List String)
    (start : Start) : Except Errno Start :=
  if start.self.toList.contains '/' then loadAt scene block start start.self
  else loadFirst (loadAt scene block start) .noEntry ((candidates search start.self).drop index)

def refusalStatus (errno : Errno) : Nat :=
  if [.noEntry, .notDirectory, .tooManyLinks, .nameTooLong].contains errno then 127 else 126

end LineShell.Script
