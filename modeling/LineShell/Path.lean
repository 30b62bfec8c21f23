import LineShell.Text.Fields
/-!
Paths as texts: what a user types, joins and is shown. Nothing here looks at a file system.
-/

namespace LineShell

structure Path where
  text : String
deriving DecidableEq, Repr

/-- A part of a path that names one step. -/
inductive PathComponent
  | root
  /-- The dot that starts a path; every other dot is as good as absent. -/
  | current
  | parent
  | named (name : List Char)
deriving DecidableEq, Repr

namespace PathComponent

def text : PathComponent → String
  | root => "/"
  | current => "."
  | parent => ".."
  | named name => String.ofList name

def ofField? : List Char → Option PathComponent
  | [] => none
  | ['.'] => none
  | ['.', '.'] => some .parent
  | name => some (.named name)

end PathComponent

namespace Path

def isAbsolute (path : Path) : Bool :=
  path.text.toList.head? = some '/'

/-- The steps of a path. Repeated and trailing separators and dots inside leave no trace. -/
def components (path : Path) : List PathComponent :=
  let fields := Text.fields '/' path.text.toList
  let start := if path.isAbsolute then [.root] else if fields.head? = some ['.'] then [.current] else []
  start ++ fields.filterMap PathComponent.ofField?

/-- `path` as seen from `base`: an absolute path is itself, any other is written behind the base,
with a separator unless the base is empty or has one at its end. -/
def join (base path : Path) : Path :=
  if path.isAbsolute then path
  else if base.text.toList.getLast?.all (· = '/') then ⟨base.text ++ path.text⟩
  else ⟨base.text ++ "/" ++ path.text⟩

theorem join_of_isAbsolute {base path : Path} (absolute : path.isAbsolute = true) :
    base.join path = path := by
  simp [join, absolute]

theorem isAbsolute_join {base : Path} (absolute : base.isAbsolute = true) (path : Path) :
    (base.join path).isAbsolute = true := by
  have starts : base.text.toList.head? = some '/' := by simpa [isAbsolute] using absolute
  unfold join
  split
  · assumption
  · split <;> simp [isAbsolute, List.head?_append, starts]

end Path

end LineShell
