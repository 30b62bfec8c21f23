import LineShell.FileSystem.Basic
import LineShell.IoError
/-!
Following paths through the tree. A walk takes one step after the other from a place; at a link it
goes on with the steps of the link's text. Each link it follows is paid from a budget, so a walk
always ends.
-/

namespace LineShell

/-- One step of a path. -/
inductive Step
  | stay
  | up
  | down (name : String)
deriving DecidableEq, Repr

/-- A path as the system reads it. -/
structure Route where
  absolute : Bool
  steps : List Step
  /-- A separator ends the path, so it has to name a directory. -/
  trailing : Bool
deriving DecidableEq, Repr

namespace Route

def stepOfField? : List Char → Option Step
  | [] => none
  | ['.'] => some .stay
  | ['.', '.'] => some .up
  | name => some (.down (String.ofList name))

def ofPath (path : Path) : Route :=
  let text := path.text.toList
  { absolute := path.isAbsolute
    steps := (Text.fields '/' text).filterMap stepOfField?
    trailing := text.getLast? = some '/' }

def allSteps (route : Route) : List Step :=
  if route.trailing then route.steps ++ [.stay] else route.steps

/-- Where the route starts, for somebody who stands at `here`. -/
def start (route : Route) (here : Location) : Location :=
  if route.absolute then [] else here

end Route

namespace FileSystem

variable (files : FileSystem)

/-- Follows steps from a place, with a budget of links; the answer is the place they lead to and
what is left of the budget. A walk may start where nothing stands any more: no name leads on from
there, but the way up leads out. -/
def walk (links : Nat) (here : Location) : List Step → Except Errno (Location × Nat)
  | [] => .ok (here, links)
  | step :: rest =>
      match files.node? here with
      | some .directory | none =>
          match step with
          | .stay => walk links here rest
          | .up => walk links here.dropLast rest
          | .down name =>
              if files.limits.nameBytes < name.utf8ByteSize then .error .nameTooLong
              else match files.node? (here ++ [name]) with
                | none => .error .noEntry
                | some (.link target) =>
                    match links with
                    | 0 => .error .tooManyLinks
                    | links + 1 =>
                        let route := Route.ofPath target
                        walk links (route.start here) (route.allSteps ++ rest)
                | some _ => walk links (here ++ [name]) rest
      | some _ => .error .notDirectory
termination_by steps => (links, steps.length)

theorem walk_links_le {links left : Nat} {here there : Location} {steps : List Step}
    (walked : files.walk links here steps = .ok (there, left)) : left ≤ links := by
  fun_induction walk files links here steps <;> simp_all <;> omega

def checkPath (path : Path) : Except IoError Unit := do
  if path.text.toList.contains '\x00' then throw .nulInFileName
  if path.text.toList = [] then throw (.system .noEntry)

def checkLength (path : Path) : Except IoError Unit :=
  if files.limits.pathBytes < path.text.utf8ByteSize then .error (.system .nameTooLong) else .ok ()

/-- The place that a path leads to, links followed. -/
def locate (here : Location) (path : Path) : Except IoError Location := do
  checkPath path
  files.checkLength path
  let route := Route.ofPath path
  match files.walk files.limits.links (route.start here) route.allSteps with
  | .ok (location, _) => return location
  | .error errno => throw (.system errno)

def stat (here : Location) (path : Path) : Except IoError Node := do
  let location ← files.locate here path
  match files.node? location with
  | some node => return node
  | none => throw (.system .noEntry)

/-- The place of what stands at a path; a link there is not followed. -/
def placeAt? (here : Location) (path : Path) : Option Location :=
  let route := Route.ofPath path
  match files.walk files.limits.links (route.start here) route.steps.dropLast,
      route.steps.getLast? with
  | .ok (parent, _), some (.down name) => some (parent ++ [name])
  | _, _ => none

/-- What stands at a path, which may be a link unless a separator ends the path. -/
def lstat (here : Location) (path : Path) : Except IoError Node := do
  checkPath path
  files.checkLength path
  match if (Route.ofPath path).trailing then none else files.placeAt? here path with
  | none => files.stat here path
  | some location =>
      match files.node? location with
      | some node => return node
      | none => throw (.system .noEntry)

/-- The names in a directory, in no order that means anything. -/
def namesIn (location : Location) : List String :=
  (files.entries.filterMap fun entry =>
    if entry.1.dropLast = location then entry.1.getLast? else none) ++
    if location = descriptorDirectory then files.descriptors.map (·.1) else []

def isDirectory (location : Location) : Bool :=
  files.node? location = some .directory

def isExecutable (here : Location) (path : Path) : Bool :=
  match files.stat here path with
  | .ok node => node.isExecutable
  | .error _ => false

end FileSystem

end LineShell
