import LineShell.Proofs.FileSystem.Canonical
import LineShell.Proofs.FileSystem.View
/-!
The working directory of a system: what keeps it, and when the path of its place still leads there. Any
directory that was found once is found by its own path as long as the directories on that are there.
-/

namespace LineShell

namespace System

variable {system : System}

theorem openForWriting_workingDir {path : Path} {append : Bool} {file : OpenFile} {after : System}
    (opened : system.openForWriting path append = .ok (file, after)) :
    after.workingDir = system.workingDir := by
  unfold openForWriting at opened
  cases found : system.view.openForWriting system.workingDir path append with
  | error cause => simp [found, bind, Except.bind] at opened
  | ok _ =>
      rw [found] at opened
      cases opened
      rfl

theorem write_workingDir {file written : OpenFile} {bytes : Bytes} {after : System}
    (done : system.write file bytes = .ok (written, after)) : after.workingDir = system.workingDir := by
  unfold write at done
  split at done
  · cases done; rfl
  · cases done; rfl
  · cases done; rfl
  · cases wrote : system.files.write file bytes with
    | error cause => simp [wrote, bind, Except.bind] at done
    | ok _ =>
        rw [wrote] at done
        cases done
        rfl

theorem isDirectory_of_view {place : Location} (standing : system.view.node? place = some .directory) :
    system.files.isDirectory place = true := by
  rw [FileSystem.isDirectory, files_of_view standing (by simp) (by simp)]
  rfl

theorem view_of_isDirectory {location : Location} (settled : system.view.Settled location)
    (directory : system.files.isDirectory location = true) :
    system.view.node? location = some .directory := by
  obtain ⟨node, standing, direct, plain⟩ := settled.here
  have folder : system.files.node? location = some .directory := by
    simpa [FileSystem.isDirectory] using directory
  rw [files_of_view standing direct plain, Option.some.injEq] at folder
  rw [standing, folder]

/-- The path of a canonical place leads there or, where it is out of bounds, nowhere. -/
theorem directoryAt_path_iff {location there : Location} (canonical : system.view.Canonical location) :
    system.directoryAt location.path = .ok there ↔ there = location ∧ system.view.Within location := by
  have directory := isDirectory_of_view (canonical.directories location (List.prefix_refl location))
  rw [← canonical.locate_path_iff, directoryAt]
  cases located : system.view.locate system.workingDir location.path with
  | error cause => simp [bind, Except.bind]
  | ok place =>
      obtain ⟨rfl, -⟩ := canonical.locate_path_iff.mp located
      simp [bind, Except.bind, pure, Except.pure, directory]

/-- The canonical place of an absolute path, if it is a directory, is canonical. -/
theorem canonical_of_canonicalize {path : Path} {location : Location} (absolute : path.isAbsolute = true)
    (found : system.canonicalize path = .ok location)
    (directory : system.files.isDirectory location = true) : system.view.Canonical location := by
  have settled := FileSystem.canonicalize_settled absolute found
  exact settled.canonical (view_of_isDirectory settled directory)

/-- A working directory that is there, with all those above it, under its own path. -/
structure Stands (system : System) : Prop where
  canonical : system.view.Canonical system.workingDir
  within : system.view.Within system.workingDir

theorem Stands.directoryAt (stands : system.Stands) :
    system.directoryAt system.workingDir.path = .ok system.workingDir :=
  (directoryAt_path_iff stands.canonical).mpr ⟨rfl, stands.within⟩

/-- From one system to another the directories on the way to a place stay, and the bounds on paths. -/
structure Retains (before after : System) (location : Location) : Prop where
  directories : ∀ place, place <+: location → before.view.node? place = some .directory →
    after.view.node? place = some .directory
  limits : after.view.limits = before.view.limits

theorem Retains.of_view {before after : System} {location : Location} (view : after.view = before.view) :
    before.Retains after location := by
  refine ⟨?_, by rw [view]⟩
  intro place _ standing
  rw [view, standing]

theorem openForWriting_retains {path : Path} {append : Bool} {file : OpenFile} {after : System}
    (opened : system.openForWriting path append = .ok (file, after)) (location : Location) :
    system.Retains after location := by
  have found := openForWriting_view opened
  constructor
  · intro place _ standing
    rw [FileSystem.openForWriting_node? found]
    by_cases same : place = file.location
    · rw [if_pos same, ← same, standing]
      rfl
    · rw [if_neg same, standing]
  · obtain ⟨-, ⟨same, -⟩ | made⟩ := FileSystem.openForWriting_files found
    · rw [same]
    · rw [made]
      rfl

/-- From one system to another no directory on the path of the working directory is renamed, replaced or
removed, and the bounds on paths stay. -/
structure Spares (before after : System) : Prop where
  directories : ∀ place, place <+: before.workingDir → before.view.node? place = some .directory →
    after.view.node? place = some .directory
  limits : after.view.limits = before.view.limits

theorem Retains.spares {before after : System} (retains : before.Retains after before.workingDir) :
    before.Spares after :=
  ⟨retains.directories, retains.limits⟩

theorem Spares.of_view {before after : System} (view : after.view = before.view) :
    before.Spares after :=
  (Retains.of_view view).spares

theorem openForWriting_spares {path : Path} {append : Bool} {file : OpenFile} {after : System}
    (opened : system.openForWriting path append = .ok (file, after)) : system.Spares after :=
  (openForWriting_retains opened system.workingDir).spares

theorem Stands.spared {after : System} (stands : system.Stands) (spares : system.Spares after)
    (place : after.workingDir = system.workingDir) : after.Stands := by
  obtain ⟨canonical, within⟩ := stands
  constructor
  · refine ⟨by rw [place]; exact canonical.names, ?_⟩
    intro dir above
    rw [place] at above
    exact spares.directories dir above (canonical.directories dir above)
  · rw [place]
    refine ⟨within.spelled, ?_, ?_⟩
    · rw [FileSystem.checkLength, spares.limits]
      exact within.short
    · rw [spares.limits]
      exact within.names

/-! ## Coming back -/

theorem view_unspoiled {system : System} (links : system.files.Unspoiled) : system.view.Unspoiled := by
  intro place target standing
  obtain file | empty | ⟨number, device⟩ := view_node? standing
  · exact links place target file
  · cases empty
    decide
  · contradiction

/-- What is known of any system: no link has a NUL in it, and the path of the working directory, if that is
still there, leads to it. -/
structure Sound (system : System) : Prop where
  links : system.files.Unspoiled
  workingDir : system.view.isDirectory system.workingDir = true →
    system.canonicalize system.workingDir.path = .ok system.workingDir

theorem Sound.atRoot {system : System} (links : system.files.Unspoiled) (root : system.workingDir = []) :
    system.Sound := by
  refine ⟨links, fun _ => ?_⟩
  rw [root]
  refine (FileSystem.Reached.root system.view).canonicalize_path rfl ?_ system.workingDir
  intro place above
  rw [List.prefix_nil.mp above]
  rfl

theorem Sound.reached {system : System} (sound : system.Sound) {path : Path} {location : Location}
    (found : system.canonicalize path = .ok location) : system.view.Reached location := by
  have links := view_unspoiled sound.links
  refine FileSystem.canonicalize_reached links ?_ found
  intro _ standing
  have absolute := system.workingDir.isAbsolute_path
  refine FileSystem.canonicalize_reached links ?_ (sound.workingDir standing)
  intro relative
  rw [absolute] at relative
  contradiction

/-- A directory that was found once is found by its canonical path while the way to it stays. -/
theorem Retains.canonicalize {before after : System} {location : Location}
    (retains : before.Retains after location) (reached : before.view.Reached location)
    (directory : before.files.isDirectory location = true) :
    after.canonicalize location.path = .ok location ∧ after.files.isDirectory location = true := by
  have here := view_of_isDirectory reached.toSettled directory
  have standing (place : Location) (above : place <+: location) :
      after.view.node? place = some .directory := by
    apply retains.directories place above
    by_cases same : place = location
    · rw [same, here]
    · exact reached.above place above same
  have found := reached.canonicalize_path retains.limits standing after.workingDir
  exact ⟨found, isDirectory_of_view (standing location (List.prefix_refl location))⟩

end System

end LineShell
