import LineShell.Proofs.SearchPath
/-!
What is found for a name with a separator in it. It is a path, and tried as one, unless nothing but
separators and dots stands behind its first name. In that case it is searched for like the name alone,
although as a path it could only be that of a directory.
-/

namespace LineShell

namespace PathComponent

theorem ofField?_eq_none_iff {field : List Char} :
    ofField? field = none ↔ field = [] ∨ field = ['.'] := by
  unfold ofField?
  split <;> simp_all

end PathComponent

namespace Path

/-- A path that spells a name and, behind a separator, nothing but dots and further separators. -/
structure Padded (path : Path) (name : String) : Prop where
  named : name ≠ ""
  plain : '/' ∉ name.toList
  padding : ∃ pieces : List String, pieces ≠ [] ∧ (∀ piece ∈ pieces, piece = "" ∨ piece = ".") ∧
    path.text = "/".intercalate (name :: pieces)

example : (⟨"tool//./"⟩ : Path).Padded "tool" :=
  ⟨by decide, by decide, ["", ".", ""], by decide, by decide, by decide⟩

variable {path : Path} {name : String}

theorem Padded.fields (padded : path.Padded name) :
    ∃ rest, Text.fields '/' path.text.toList = name.toList :: rest ∧
      rest.filterMap PathComponent.ofField? = [] := by
  obtain ⟨-, plain, pieces, -, blank, text⟩ := padded
  have fieldOf (field : List Char) (listed : field ∈ pieces.map String.toList) :
      field = [] ∨ field = ['.'] := by
    obtain ⟨piece, among, rfl⟩ := List.mem_map.mp listed
    rcases blank piece among with rfl | rfl
    · exact .inl rfl
    · exact .inr rfl
  refine ⟨pieces.map String.toList, ?_, ?_⟩
  · rw [text, String.toList_intercalate]
    refine Text.fields_eq_iff.mpr ⟨List.cons_ne_nil _ _, ?_, rfl⟩
    intro field listed
    rcases List.mem_cons.mp listed with rfl | later
    · exact plain
    · rcases fieldOf field later with rfl | rfl <;> decide
  · rw [List.filterMap_eq_nil_iff]
    intro field listed
    exact PathComponent.ofField?_eq_none_iff.mpr (fieldOf field listed)

theorem components_of_not_padded (inside : '/' ∈ path.text.toList) (relative : path.isAbsolute = false)
    (bare : ∀ name, ¬ path.Padded name) :
    ∃ first second others, path.components = first :: second :: others := by
  obtain ⟨first, rest, cut⟩ : ∃ first rest, Text.fields '/' path.text.toList = first :: rest :=
    List.exists_cons_of_ne_nil (Text.fields_ne_nil _ _)
  obtain ⟨-, free, whole⟩ := Text.fields_eq_iff.mp cut
  have some : first ≠ [] := by
    rintro rfl
    cases rest with
    | nil => simp [← whole] at inside
    | cons second later => simp [isAbsolute, ← whole] at relative
  have several : rest ≠ [] := by
    rintro rfl
    rw [List.intercalate_singleton] at whole
    exact free first List.mem_cons_self (whole ▸ inside)
  obtain ⟨component, -, parts⟩ := components_of_fields cut some
  cases others : rest.filterMap PathComponent.ofField? with
  | cons second later => exact ⟨component, second, later, by rw [parts, others]⟩
  | nil =>
      refine absurd ⟨?_, ?_, rest.map String.ofList, ?_, ?_, ?_⟩ (bare (String.ofList first))
      · simpa using some
      · simpa using free first List.mem_cons_self
      · simpa using several
      · intro piece listed
        obtain ⟨field, among, rfl⟩ := List.mem_map.mp listed
        have blank := List.filterMap_eq_nil_iff.mp others field among
        rcases PathComponent.ofField?_eq_none_iff.mp blank with rfl | rfl
        · exact .inl rfl
        · exact .inr rfl
      · rw [← String.toList_inj, String.toList_intercalate, ← whole]
        simp [Function.comp_def]

/-- Whatever a padded path is joined to, it ends at a separator or at a dot behind one. -/
theorem Padded.join (padded : path.Padded name) (base : Path) :
    ∃ front, (base.join path).text = front ++ "/" ∨ (base.join path).text = front ++ "/" ++ "." := by
  obtain ⟨-, -, pieces, some, blank, text⟩ := padded
  obtain ⟨before, last, rfl⟩ := (List.eq_nil_or_concat pieces).resolve_left some
  have ends : path.text = "/".intercalate (name :: before) ++ "/" ++ last := by
    rw [text, List.concat_eq_append, ← List.cons_append,
      String.intercalate_append_of_ne_nil (List.cons_ne_nil _ _) (List.cons_ne_nil _ _)]
    simp
  obtain ⟨start, joined⟩ : ∃ start, (base.join path).text = start ++ path.text := by
    unfold Path.join
    split
    · exact ⟨"", by simp⟩
    · split
      · exact ⟨base.text, rfl⟩
      · exact ⟨base.text ++ "/", rfl⟩
  refine ⟨start ++ "/".intercalate (name :: before), ?_⟩
  rcases blank last (by simp) with rfl | rfl
  · exact .inl (by rw [joined, ends]; simp [String.append_assoc])
  · exact .inr (by rw [joined, ends]; simp [String.append_assoc])

end Path

/-- A path that ends at a separator, or at a dot behind one, asks for a directory in its last step. -/
theorem Route.allSteps_of_end {path : Path} {front : String}
    (ends : path.text = front ++ "/" ∨ path.text = front ++ "/" ++ ".") :
    ∃ steps, (ofPath path).allSteps = steps ++ [.stay] := by
  rcases ends with slash | dot
  · have trailing : (ofPath path).trailing = true := by simp [ofPath, slash]
    exact ⟨_, by rw [allSteps, if_pos trailing]⟩
  · have plain : ¬ (ofPath path).trailing = true := by simp [ofPath, dot]
    have cut := Text.fields_append_separator '/' front.toList ['.']
    have steps : (ofPath path).steps =
        (Text.fields '/' front.toList).filterMap stepOfField? ++ [.stay] := by
      have text : path.text.toList = front.toList ++ '/' :: ['.'] := by rw [dot]; simp
      simp only [ofPath, text, cut, List.filterMap_append]
      rfl
    exact ⟨_, by rw [allSteps, if_neg plain, steps]⟩

namespace FileSystem

variable {files : FileSystem} {here there : Location} {path : Path} {name : String}

theorem walk_stay {links left : Nat} {steps : List Step}
    (walked : files.walk links here (steps ++ [.stay]) = .ok (there, left)) :
    files.node? there = some .directory ∨ files.node? there = none := by
  rw [walk_append] at walked
  cases first : files.walk links here steps with
  | error errno => simp [first] at walked
  | ok reached =>
      obtain ⟨place, rest⟩ := reached
      simp only [first] at walked
      rw [walk.eq_def] at walked
      cases standing : files.node? place with
      | none => simp_all [walk]
      | some node => cases node <;> simp_all [walk]

theorem isExecutable_of_end {front : String}
    (ends : path.text = front ++ "/" ∨ path.text = front ++ "/" ++ ".") :
    files.isExecutable here path = false := by
  cases runs : files.isExecutable here path with
  | false => rfl
  | true =>
      obtain ⟨place, node, located, standing, executable⟩ := isExecutable_iff.mp runs
      obtain ⟨-, -, left, walked⟩ := locate_eq_ok_iff.mp located
      obtain ⟨steps, last⟩ := Route.allSteps_of_end ends
      rw [last] at walked
      rcases walk_stay walked with directory | nothing
      · rw [directory, Option.some.injEq] at standing
        subst standing
        contradiction
      · rw [nothing] at standing
        contradiction

variable (files here)

theorem findCommand_of_padded (padded : path.Padded name) (search : String) (currentDir : Path) :
    files.findCommand here search currentDir path =
      files.findCommand here search currentDir ⟨name⟩ := by
  obtain ⟨rest, cut, nothing⟩ := padded.fields
  have some : name.toList ≠ [] := by simpa using padded.named
  have relative : ¬ path.isAbsolute = true := by simp [Path.relative_of_fields cut some]
  obtain ⟨component, text, parts⟩ := Path.components_of_fields cut some
  rw [nothing] at parts
  rw [findCommand_eq_searchFor files here padded.named padded.plain, findCommand, if_neg relative, parts]
  simp only [text, String.ofList_toList]

/-- A path with a separator is tried as it is if it is absolute, and else from the current directory,
whatever the search path. But a padded path is searched for by the name in it, although from the
current directory it could only be that of a directory. -/
theorem findCommand_of_separator (inside : '/' ∈ path.text.toList) :
    let found (search : String) (currentDir : Path) := files.findCommand here search currentDir path
    let tried (target : Path) := if files.isExecutable here target then some target else none
    (path.isAbsolute = true → ∀ search currentDir, found search currentDir = tried path) ∧
      (path.isAbsolute = false → (∀ name, ¬ path.Padded name) →
        ∀ search currentDir, found search currentDir = tried (currentDir.join path)) ∧
      ∀ name, path.Padded name → path.isAbsolute = false ∧
        ∀ currentDir, tried (currentDir.join path) = none ∧
          ∀ search, found search currentDir = files.findCommand here search currentDir ⟨name⟩ := by
  intro found tried
  refine ⟨?_, ?_, ?_⟩
  · intro absolute search currentDir
    simp only [found, tried, findCommand, absolute, if_true]
  · intro relative bare search currentDir
    obtain ⟨first, second, others, parts⟩ := Path.components_of_not_padded inside relative bare
    simp only [found, tried, findCommand, relative, parts, Bool.false_eq_true, if_false]
  · intro name padded
    obtain ⟨rest, cut, -⟩ := padded.fields
    refine ⟨Path.relative_of_fields cut (by simpa using padded.named), fun currentDir => ⟨?_, ?_⟩⟩
    · obtain ⟨front, ends⟩ := padded.join currentDir
      simp only [tried, isExecutable_of_end ends, Bool.false_eq_true, if_false]
    · intro search
      exact files.findCommand_of_padded here padded search currentDir

section Tool

/-- A tree with one program, in a directory of the root. -/
def withTool : FileSystem :=
  { entries := [(["bin"], .directory), (["bin", "tool"], .file 0o755 [])] }

theorem searchFor_tool : withTool.searchFor [] "/bin" ⟨"tool"⟩ = some ⟨"/bin/tool"⟩ := by
  have runs : withTool.isExecutable [] ⟨"/bin/tool"⟩ = true :=
    (isExecutable_of_node withTool [] rfl rfl rfl rfl rfl (by simp) (by decide)).trans (by decide)
  have places : SearchPath.directories "/bin" = [⟨"/bin"⟩] := by decide
  have joined : (⟨"/bin"⟩ : Path).join ⟨"tool"⟩ = ⟨"/bin/tool"⟩ := by decide
  simp only [searchFor, places, List.map_cons, List.map_nil, joined, List.find?_cons, runs]

theorem padded_tool : (⟨"tool/"⟩ : Path).Padded "tool" :=
  ⟨by decide, by decide, [""], by decide, by decide, by decide⟩

theorem findCommand_of_separator_tool :
    '/' ∈ (⟨"tool/"⟩ : Path).text.toList ∧
      withTool.findCommand [] "/bin" ⟨"/"⟩ ⟨"tool/"⟩ = some ⟨"/bin/tool"⟩ ∧
      withTool.isExecutable [] (Path.join ⟨"/"⟩ ⟨"tool/"⟩) = false := by
  have inside : '/' ∈ (⟨"tool/"⟩ : Path).text.toList := by decide
  obtain ⟨-, -, tells⟩ := withTool.findCommand_of_separator [] inside
  obtain ⟨-, here⟩ := tells "tool" padded_tool
  obtain ⟨nothing, searched⟩ := here ⟨"/"⟩
  refine ⟨inside, ?_, ?_⟩
  · refine (searched "/bin").trans ?_
    rw [findCommand_eq_searchFor withTool [] (by decide) (by decide), searchFor_tool]
  · simpa using nothing

/-- What a path with a separator leads to does depend on the search path. -/
theorem findCommand_searches_padded :
    '/' ∈ (⟨"tool/"⟩ : Path).text.toList ∧
      withTool.findCommand [] "/bin" ⟨"/"⟩ ⟨"tool/"⟩ = some ⟨"/bin/tool"⟩ ∧
      withTool.findCommand [] "" ⟨"/"⟩ ⟨"tool/"⟩ = none := by
  have searched (search : String) : withTool.findCommand [] search ⟨"/"⟩ ⟨"tool/"⟩ =
      withTool.searchFor [] search ⟨"tool"⟩ := by
    rw [withTool.findCommand_of_padded [] padded_tool,
      findCommand_eq_searchFor withTool [] (by decide) (by decide)]
  have nowhere : SearchPath.directories "" = [] := by decide
  refine ⟨by decide, by rw [searched, searchFor_tool], ?_⟩
  rw [searched, searchFor, nowhere]
  rfl

end Tool

end FileSystem

end LineShell
