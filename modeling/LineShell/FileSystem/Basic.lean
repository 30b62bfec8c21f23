import LineShell.Path
import LineShell.Text.Utf8
/-!
The tree of files as a value: what stands at which place. A place is known by the names on the way
to it from the root, so it never runs through a link.
-/

namespace LineShell

/-- The names that lead from the root to a place, the outermost first. -/
abbrev Location := List String

namespace Location

/-- The path of a place: absolute, with no dots, repeated separators or links in it. -/
def path (location : Location) : Path :=
  ⟨"/" ++ "/".intercalate location⟩

/-- Where a directory is once it has been taken away together with those above it, down from a depth.
No path leads there, since no name on a path is empty. -/
def lost (location : Location) (depth : Nat) : Location :=
  location.take depth ++ List.replicate (location.length - depth) ""

end Location

/-- The special files. -/
inductive Device
  | null
  /-- Has no room for any byte. -/
  | full
  /-- Gives zeros without end. -/
  | zero
  /-- The terminal, which no process here has. -/
  | terminal
  | descriptor (number : Nat)
deriving DecidableEq, Repr

namespace Device

def isStream : Device → Bool
  | descriptor _ => true
  | _ => false

end Device

inductive Node
  | directory
  | file (mode : Nat) (bytes : Bytes)
  | link (target : Path)
  | device (device : Device)
  /-- The interpreter of scripts, an executable file that the system brings along. -/
  | interpreter
deriving DecidableEq, Repr

namespace Node

def isExecutable : Node → Bool
  | file mode _ => mode &&& 0o111 != 0
  | interpreter => true
  | _ => false

end Node

/-- The bounds within which the system follows paths. -/
structure PathLimits where
  links : Nat := 40
  nameBytes : Nat := 255
  pathBytes : Nat := 4095
deriving DecidableEq, Repr

structure FileSystem where
  entries : List (Location × Node) := []
  /-- What the process that looks at the files has open, under the names by which it finds that. -/
  descriptors : List (String × Node) := []
  limits : PathLimits := {}
deriving DecidableEq, Repr

namespace FileSystem

variable (files : FileSystem)

def descriptorDirectory : Location := ["proc", "self", "fd"]

def openNode? (location : Location) : Option Node :=
  match location.getLast? with
  | none => none
  | some name =>
      if location.dropLast = descriptorDirectory then files.descriptors.lookup name else none

/-- What stands at a place. The root is always a directory. -/
def node? (location : Location) : Option Node :=
  if location = [] then some .directory
  else (files.entries.lookup location).or (files.openNode? location)

/-- Entries with one of them put in the place of the one it replaces, or else at the end. -/
def putEntry (location : Location) (node : Node) : List (Location × Node) → List (Location × Node)
  | [] => [(location, node)]
  | entry :: rest =>
      if entry.1 = location then (location, node) :: rest
      else entry :: putEntry location node rest

def put (location : Location) (node : Node) : FileSystem :=
  { files with entries := putEntry location node files.entries }

def remove (location : Location) : FileSystem :=
  { files with entries := files.entries.filter fun entry => !location.isPrefixOf entry.1 }

theorem lookup_putEntry (location other : Location) (node : Node) (entries : List (Location × Node)) :
    (putEntry location node entries).lookup other =
      if other = location then some node else entries.lookup other := by
  induction entries with
  | nil =>
      by_cases same : other = location
      · simp [putEntry, same]
      · simp [putEntry, List.lookup_cons, same, beq_eq_false_iff_ne.mpr same]
  | cons entry rest ih =>
      obtain ⟨place, old⟩ := entry
      by_cases here : place = location
      · subst here
        by_cases same : other = place
        · simp [putEntry, same]
        · simp [putEntry, List.lookup_cons, same, beq_eq_false_iff_ne.mpr same]
      · by_cases same : other = place
        · subst same
          simp [putEntry, here]
        · simp [putEntry, List.lookup_cons, here, beq_eq_false_iff_ne.mpr same, ih]

/-- After a node is put somewhere, that place holds it and every other place is as before. -/
theorem node?_put (location other : Location) (node : Node) (below : location ≠ []) :
    (files.put location node).node? other =
      if other = location then some node else files.node? other := by
  by_cases root : other = []
  · subst root
    simp [node?, Ne.symm below]
  · by_cases same : other = location
    · subst same
      simp [node?, put, root, lookup_putEntry]
    · simp [node?, put, root, lookup_putEntry, same, openNode?]

end FileSystem

end LineShell
