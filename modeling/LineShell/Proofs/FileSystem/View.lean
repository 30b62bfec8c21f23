import LineShell.Proofs.FileSystem.Opening
import LineShell.System
/-!
The files as the shell's process sees them, with its streams among them. Opening and writing do to
these what they do to any files.
-/

namespace LineShell

namespace System

variable {system after : System} {file written : OpenFile} {bytes : Bytes}

/-- A stream is found as a link to the empty file or as what is open under a number. -/
theorem streams_node {system : System} {name : String} {node : Node}
    (found : system.streams.lookup name = some node) :
    node = .link nullLocation.path ∨ ∃ number, node = .device (.descriptor number) := by
  obtain ⟨_, _, split, _⟩ := List.lookup_eq_some_iff.mp found
  have member : (name, node) ∈ system.streams := by simp [split]
  simp only [streams, List.mem_cons, List.not_mem_nil, or_false, Prod.mk.injEq] at member
  rcases member with ⟨-, rfl⟩ | ⟨-, rfl⟩ | ⟨-, rfl⟩
  · split
    · exact .inl rfl
    · exact .inr ⟨0, rfl⟩
  · exact .inr ⟨1, rfl⟩
  · exact .inr ⟨2, rfl⟩

theorem view_node? {place : Location} {node : Node} (standing : system.view.node? place = some node) :
    system.files.node? place = some node ∨ node = .link nullLocation.path ∨
      ∃ number, node = .device (.descriptor number) := by
  unfold FileSystem.node? at standing ⊢
  by_cases root : place = []
  · rw [if_pos root] at standing ⊢
    exact .inl standing
  · rw [if_neg root] at standing ⊢
    obtain entry | ⟨_, stream⟩ := Option.or_eq_some_iff.mp standing
    · exact .inl (Option.or_eq_some_iff.mpr (.inl entry))
    · unfold FileSystem.openNode? at stream
      split at stream
      · contradiction
      · split at stream
        · exact .inr (streams_node stream)
        · contradiction

theorem files_of_view {place : Location} {node : Node} (standing : system.view.node? place = some node)
    (direct : ∀ target, node ≠ .link target) (plain : ∀ number, node ≠ .device (.descriptor number)) :
    system.files.node? place = some node := by
  obtain file | link | ⟨number, device⟩ := view_node? standing
  · exact file
  · exact absurd link (direct nullLocation.path)
  · exact absurd device (plain number)

theorem view_feedStdin (system : System) (bytes : Bytes) :
    (system.feedStdin bytes).view = system.view := by
  simp [feedStdin, view, streams]

theorem openForWriting_view {path : Path} {append : Bool}
    (opened : system.openForWriting path append = .ok (file, after)) :
    system.view.openForWriting system.workingDir path append = .ok (file, after.view) := by
  unfold openForWriting at opened
  cases found : system.view.openForWriting system.workingDir path append with
  | error cause => simp [found, bind, Except.bind] at opened
  | ok result =>
      obtain ⟨handle, files⟩ := result
      have streams := FileSystem.openForWriting_descriptors found
      rw [found] at opened
      cases opened
      simp only [view, Except.ok.injEq, Prod.mk.injEq, true_and]
      obtain ⟨entries, descriptors, limits⟩ := files
      cases streams
      rfl

theorem write_view (done : system.write file bytes = .ok (written, after)) :
    after.view = system.view ∨
      file.location ≠ [] ∧ ∃ node, after.view = system.view.put file.location node := by
  unfold write at done
  split at done
  · cases done
    exact .inl (system.view_feedStdin bytes)
  · cases done
    exact .inl rfl
  · cases done
    exact .inl rfl
  · cases wrote : system.files.write file bytes with
    | error cause => simp [wrote, bind, Except.bind] at done
    | ok result =>
        rw [wrote] at done
        cases done
        obtain same | ⟨below, node, made⟩ := FileSystem.write_files wrote
        · exact .inl (by simp only [same, view, streams])
        · exact .inr ⟨below, node, by simp only [made, view, streams, FileSystem.put]⟩

theorem write_node? (done : system.write file bytes = .ok (written, after)) {other : Location}
    (apart : other ≠ file.location) : after.view.node? other = system.view.node? other := by
  obtain same | ⟨below, node, made⟩ := write_view done
  · rw [same]
  · rw [made, FileSystem.node?_put _ _ _ _ below, if_neg apart]

/-- A file takes all that is written to it: at its end if it is added to, else from the offset on. -/
theorem write_file {mode : Nat} {old : Bytes} (bytes : Bytes)
    (standing : system.view.node? file.location = some (.file mode old)) :
    ∃ written after, system.write file bytes = .ok (written, after) ∧
      after.view = system.view.put file.location
        (.file mode (old.overwrite (if file.append then old.length else file.offset) bytes)) := by
  let start := if file.append then old.length else file.offset
  let files := system.files.put file.location (.file mode (old.overwrite start bytes))
  have wrote : system.files.write file bytes =
      .ok ({ file with offset := start + bytes.length }, files) := by
    simp only [FileSystem.write, files_of_view standing nofun nofun, start, files]
  refine ⟨{ file with offset := start + bytes.length }, { system with files }, ?_, rfl⟩
  simp only [write, standing, wrote, bind, Except.bind, pure, Except.pure]

end System

end LineShell
