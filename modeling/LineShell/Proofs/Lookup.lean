import LineShell.Lookup
/-!
What is found for the name of a command: an executable file, by a path with a separator in it, so nobody
who is given that path looks along a search path once more.
-/

namespace LineShell

namespace Path

theorem mem_of_isAbsolute {path : Path} (absolute : path.isAbsolute = true) : '/' ∈ path.text.toList :=
  List.mem_of_mem_head? (by simpa [isAbsolute] using absolute)

/-- Behind a directory that is named at all, a name stands behind a separator. -/
theorem mem_join_of_named {base : Path} (named : base.text ≠ "") (path : Path) :
    '/' ∈ (base.join path).text.toList := by
  unfold join
  split
  · next absolute => exact mem_of_isAbsolute absolute
  · split
    · next ends =>
        cases last : base.text.toList.getLast? with
        | none => exact absurd (List.getLast?_eq_none_iff.mp last) (by simpa using named)
        | some c =>
            rw [last] at ends
            have separator : c = '/' := by simpa using ends
            rw [separator] at last
            simp [List.mem_of_getLast? last]
    · simp

theorem mem_join (base : Path) {path : Path} (inside : '/' ∈ path.text.toList) :
    '/' ∈ (base.join path).text.toList := by
  unfold join
  split
  · exact inside
  · split <;> simp [inside]

theorem length_components_le {path : Path} (absent : '/' ∉ path.text.toList) :
    path.components.length ≤ 1 := by
  have relative : path.isAbsolute = false := by
    cases absolute : path.isAbsolute with
    | false => rfl
    | true => exact absurd (mem_of_isAbsolute absolute) absent
  have fields := Text.fields_of_not_mem absent
  by_cases dot : path.text.toList = ['.']
  · rw [dot] at fields
    simp [components, relative, fields, dot, PathComponent.ofField?]
  · have few := List.length_filterMap_le PathComponent.ofField? [path.text.toList]
    simpa [components, relative, fields, dot] using few

end Path

theorem SearchPath.text_of_mem_directories {search : String} {dir : Path}
    (listed : dir ∈ directories search) : dir.text ≠ "" := by
  obtain ⟨entry, kept, rfl⟩ := List.mem_map.mp listed
  have some : entry ≠ [] := by simpa using (List.mem_filter.mp kept).2
  simpa using some

namespace FileSystem

variable {files : FileSystem} {here : Location} {search : String} {program : Path}

theorem isExecutable_iff {path : Path} :
    files.isExecutable here path = true ↔
      ∃ place node, files.locate here path = .ok place ∧ files.node? place = some node ∧
        node.isExecutable = true := by
  unfold isExecutable stat
  cases located : files.locate here path with
  | error cause => simp [bind, Except.bind]
  | ok place =>
      cases standing : files.node? place with
      | none => simp [bind, Except.bind, standing, throw, throwThe, MonadExceptOf.throw]
      | some node => simp [bind, Except.bind, pure, Except.pure, standing]

theorem isExecutable_of_located {path : Path} {place : Location} {node : Node}
    (located : files.locate here path = .ok place) (standing : files.node? place = some node) :
    files.isExecutable here path = node.isExecutable := by
  simp [isExecutable, stat, located, standing, bind, Except.bind, pure, Except.pure]

theorem searchFor_eq_some {name : Path} (found : files.searchFor here search name = some program) :
    files.isExecutable here program = true ∧ '/' ∈ program.text.toList := by
  obtain ⟨dir, listed, rfl⟩ := List.mem_map.mp (List.mem_of_find?_eq_some found)
  have executable := List.find?_some found
  exact ⟨executable, Path.mem_join_of_named (SearchPath.text_of_mem_directories listed) name⟩

theorem findCommand_eq_some {currentDir command : Path}
    (found : files.findCommand here search currentDir command = some program) :
    files.isExecutable here program = true ∧ '/' ∈ program.text.toList := by
  unfold findCommand at found
  split at found
  · next absolute =>
      split at found
      · next executable =>
          cases found
          exact ⟨executable, Path.mem_of_isAbsolute absolute⟩
      · contradiction
  · split at found
    · contradiction
    · exact searchFor_eq_some found
    · next some several =>
        dsimp only at found
        split at found
        · next executable =>
            cases found
            refine ⟨executable, Path.mem_join currentDir ?_⟩
            by_cases inside : '/' ∈ command.text.toList
            · exact inside
            · have few := Path.length_components_le inside
              match parts : command.components, few with
              | [], _ => exact absurd parts some
              | [component], _ => exact absurd parts (several component)
        · contradiction

end FileSystem

end LineShell
