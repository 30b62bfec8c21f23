import LineShell.Proofs.FileSystem.Canonical
import LineShell.Proofs.Lookup
/-!
The search for a program along a search path: one entry after the other, and the first that has the
program wins. So search paths that are put together are searched in turn, and an entry that has nothing
new to offer can stand anywhere.
-/

namespace LineShell

namespace SearchPath

/-- What stands between the colons of a search path. -/
def entries (search : String) : List String :=
  (Text.fields ':' search.toList).map String.ofList

theorem entries_eq_iff {search : String} {pieces : List String} :
    entries search = pieces ↔
      pieces ≠ [] ∧ (∀ piece ∈ pieces, ':' ∉ piece.toList) ∧ ":".intercalate pieces = search := by
  have whole : ":".intercalate pieces = search ↔
      [':'].intercalate (pieces.map String.toList) = search.toList := by
    rw [← String.toList_inj, String.toList_intercalate]
    rfl
  have read : entries search = pieces ↔
      Text.fields ':' search.toList = pieces.map String.toList := by
    constructor
    · rintro rfl
      simp [entries]
    · intro cut
      simp [entries, cut]
  rw [read, Text.fields_eq_iff, whole]
  simp

theorem entries_append (first second : String) :
    entries (first ++ ":" ++ second) = entries first ++ entries second := by
  have cut := Text.fields_append_separator ':' first.toList second.toList
  simp only [entries, ← List.map_append, ← cut]
  simp

theorem directories_eq (search : String) :
    directories search = ((entries search).filter (· ≠ "")).map Path.mk := by
  simp only [directories, entries, List.filter_map, List.map_map]
  congr 1
  apply List.filter_congr
  intro field _
  simp

end SearchPath

namespace Path

variable {path : Path} {first : List Char} {rest : List (List Char)}
  (cut : Text.fields '/' path.text.toList = first :: rest) (some : first ≠ [])

include cut some

theorem relative_of_fields : path.isAbsolute = false := by
  cases text : path.text.toList with
  | nil => simp [isAbsolute, text]
  | cons c later =>
      by_cases slash : c = '/'
      · rw [text, slash, Text.fields, if_pos rfl] at cut
        exact absurd (List.cons.inj cut).1.symm some
      · simp [isAbsolute, text, slash]

/-- A path whose first field is not empty starts with that, whatever it is, and goes on with what the
other fields name. -/
theorem components_of_fields :
    ∃ component, component.text = String.ofList first ∧
      path.components = component :: rest.filterMap PathComponent.ofField? := by
  have relative := relative_of_fields cut some
  by_cases dot : first = ['.']
  · refine ⟨.current, by rw [dot]; rfl, ?_⟩
    simp [components, relative, cut, dot, PathComponent.ofField?]
  · obtain ⟨component, named, text⟩ : ∃ component, PathComponent.ofField? first = .some component ∧
        component.text = String.ofList first := by
      by_cases up : first = ['.', '.']
      · exact ⟨.parent, by rw [up]; rfl, by rw [up]; rfl⟩
      · exact ⟨.named first, PathComponent.ofField?.eq_4 first some dot up, rfl⟩
    refine ⟨component, text, ?_⟩
    simp [components, relative, cut, dot, named]

end Path

namespace FileSystem

variable (files : FileSystem) (here : Location) (name : Path)

/-- Whether an entry of a search path has a program of a name. The empty entry has none. -/
def offers (entry : String) : Bool :=
  entry ≠ "" && files.isExecutable here (Path.join ⟨entry⟩ name)

theorem offers_eq_false_iff (entry : String) :
    files.offers here name entry = false ↔
      (entry ≠ "" → files.isExecutable here (Path.join ⟨entry⟩ name) = false) := by
  by_cases empty : entry = ""
  · simp [offers, empty]
  · simp [offers, empty]

theorem searchFor_eq (search : String) :
    files.searchFor here search name =
      ((SearchPath.entries search).find? (files.offers here name)).map
        fun entry => Path.join ⟨entry⟩ name := by
  have offered : files.offers here name =
      fun entry => entry ≠ "" && files.isExecutable here (Path.join ⟨entry⟩ name) := rfl
  rw [searchFor, SearchPath.directories_eq, List.map_map, List.find?_map, List.find?_filter]
  simp [Function.comp_def, offered]

theorem searchFor_append (first second : String) :
    files.searchFor here (first ++ ":" ++ second) name =
      (files.searchFor here first name).or (files.searchFor here second name) := by
  simp only [searchFor_eq, SearchPath.entries_append, List.find?_append, Option.map_or]

/-- It does not matter for the first that is found what stands behind it. -/
theorem find?_insert {α : Type} {test : α → Bool} {before after : List α} {new : α}
    (idle : test new = false ∨ new ∈ before) :
    (before ++ new :: after).find? test = (before ++ after).find? test := by
  rw [List.find?_append, List.find?_append]
  cases found : before.find? test with
  | some first => rfl
  | none =>
      have fails : test new = false := by
        rcases idle with fails | listed
        · exact fails
        · simpa using List.find?_eq_none.mp found new listed
      rw [Option.none_or, Option.none_or, List.find?_cons, fails]

/-- The entries of a search path put together from some, or else the one entry that is empty. -/
theorem searchFor_intercalate {pieces : List String} (free : ∀ piece ∈ pieces, ':' ∉ piece.toList) :
    files.searchFor here (":".intercalate pieces) name =
      (pieces.find? (files.offers here name)).map fun entry => Path.join ⟨entry⟩ name := by
  rw [searchFor_eq]
  by_cases none : pieces = []
  · subst none
    rfl
  · rw [SearchPath.entries_eq_iff.mpr ⟨none, free, rfl⟩]

/-- The first entry that offers a program wins. -/
theorem searchFor_eq_some_iff {search : String} {program : Path} :
    files.searchFor here search name = some program ↔
      ∃ before entry after, SearchPath.entries search = before ++ entry :: after ∧ entry ≠ "" ∧
        program = Path.join ⟨entry⟩ name ∧ files.isExecutable here program = true ∧
        ∀ earlier ∈ before, earlier ≠ "" →
          files.isExecutable here (Path.join ⟨earlier⟩ name) = false := by
  rw [searchFor_eq, Option.map_eq_some_iff]
  constructor
  · rintro ⟨entry, first, rfl⟩
    obtain ⟨offered, before, after, split, earlier⟩ := List.find?_eq_some_iff_append.mp first
    obtain ⟨some, executable⟩ : entry ≠ "" ∧
        files.isExecutable here (Path.join ⟨entry⟩ name) = true := by simpa [offers] using offered
    refine ⟨before, entry, after, split, some, rfl, executable, ?_⟩
    intro other listed
    exact (files.offers_eq_false_iff here name other).mp (by simpa using earlier other listed)
  · rintro ⟨before, entry, after, split, some, rfl, executable, earlier⟩
    refine ⟨entry, List.find?_eq_some_iff_append.mpr ⟨?_, before, after, split, ?_⟩, rfl⟩
    · simp [offers, some, executable]
    · intro other listed
      rw [(files.offers_eq_false_iff here name other).mpr (earlier other listed)]
      rfl

theorem searchFor_eq_none_iff {search : String} :
    files.searchFor here search name = none ↔
      ∀ entry ∈ SearchPath.entries search, entry ≠ "" →
        files.isExecutable here (Path.join ⟨entry⟩ name) = false := by
  rw [searchFor_eq, Option.map_eq_none_iff, List.find?_eq_none]
  constructor
  · intro none entry listed
    exact (files.offers_eq_false_iff here name entry).mp (by simpa using none entry listed)
  · intro none entry listed
    rw [(files.offers_eq_false_iff here name entry).mpr (none entry listed)]
    exact Bool.false_ne_true

theorem searchFor_insert {before after : List String} {entry : String}
    (free : ∀ piece ∈ before ++ entry :: after, ':' ∉ piece.toList)
    (idle : entry = "" ∨ files.isExecutable here (Path.join ⟨entry⟩ name) = false ∨ entry ∈ before) :
    files.searchFor here (":".intercalate (before ++ entry :: after)) name =
      files.searchFor here (":".intercalate (before ++ after)) name := by
  have kept (piece : String) (listed : piece ∈ before ++ after) : ':' ∉ piece.toList := by
    apply free
    rcases List.mem_append.mp listed with earlier | later
    · exact List.mem_append_left _ earlier
    · exact List.mem_append_right _ (List.mem_cons_of_mem entry later)
  have useless : files.offers here name entry = false ∨ entry ∈ before := by
    rcases idle with empty | lacking | listed
    · exact .inl (by simp [offers, empty])
    · exact .inl ((files.offers_eq_false_iff here name entry).mpr fun _ => lacking)
    · exact .inr listed
  rw [searchFor_intercalate files here name free, searchFor_intercalate files here name kept,
    find?_insert useless]

variable {name}

theorem findCommand_eq_searchFor (named : name.text ≠ "") (plain : '/' ∉ name.text.toList)
    (search : String) (currentDir : Path) :
    files.findCommand here search currentDir name = files.searchFor here search name := by
  have relative : ¬ name.isAbsolute = true := fun absolute => plain (Path.mem_of_isAbsolute absolute)
  obtain ⟨component, text, parts⟩ :=
    Path.components_of_fields (Text.fields_of_not_mem plain) (by simpa using named)
  have same : (⟨component.text⟩ : Path) = name := by
    rw [text, String.ofList_toList]
  rw [findCommand, if_neg relative, parts]
  simp only [List.filterMap_nil, same]

/-- What stands under a name in a directory of the root is found there, and runs if it is executable. -/
theorem isExecutable_of_node {path : Path} {dir file : String} {node : Node}
    (read : Route.ofPath path = ⟨true, [.down dir, .down file], false⟩)
    (spelled : checkPath path = .ok ()) (short : files.checkLength path = .ok ())
    (inside : files.node? [dir] = some .directory) (standing : files.node? [dir, file] = some node)
    (direct : ∀ target, node ≠ .link target)
    (near : ∀ part ∈ [dir, file], ¬ files.limits.nameBytes < part.utf8ByteSize) :
    files.isExecutable here path = node.isExecutable := by
  have first : files.walk files.limits.links [] [.down dir] = .ok ([dir], files.limits.links) :=
    walk_down rfl (near dir (by simp)) inside (by simp) _
  have second : files.walk files.limits.links [] ([.down dir] ++ [.down file]) =
      .ok ([dir, file], files.limits.links) := by
    rw [walk_append, first]
    exact walk_down inside (near file (by simp)) standing direct _
  have walked : files.walk files.limits.links ((Route.ofPath path).start here)
      (Route.ofPath path).allSteps = .ok ([dir, file], files.limits.links) := by
    rw [read]
    exact second
  exact isExecutable_of_located (locate_of_walk spelled short walked) standing

/-- A name without a separator is the program in the first entry of the search path that has one. The
current directory is not asked. Search paths joined by a colon are searched in turn, and an entry that is
empty, has no such program or stands further in front already makes no difference. -/
theorem findCommand_of_name (named : name.text ≠ "") (plain : '/' ∉ name.text.toList) :
    let found (search : String) (currentDir : Path) := files.findCommand here search currentDir name
    let lacks (entry : String) := files.isExecutable here (Path.join ⟨entry⟩ name) = false
    (∀ search currentDir program, found search currentDir = some program ↔
        ∃ before entry after, SearchPath.entries search = before ++ entry :: after ∧ entry ≠ "" ∧
          program = Path.join ⟨entry⟩ name ∧ files.isExecutable here program = true ∧
          ∀ earlier ∈ before, earlier ≠ "" → lacks earlier) ∧
      (∀ search currentDir, found search currentDir = none ↔
        ∀ entry ∈ SearchPath.entries search, entry ≠ "" → lacks entry) ∧
      (∀ search currentDir otherDir, found search currentDir = found search otherDir) ∧
      (∀ first second currentDir, found (first ++ ":" ++ second) currentDir =
        (found first currentDir).or (found second currentDir)) ∧
      ∀ before entry after currentDir, (∀ piece ∈ before ++ entry :: after, ':' ∉ piece.toList) →
        entry = "" ∨ lacks entry ∨ entry ∈ before →
        found (":".intercalate (before ++ entry :: after)) currentDir =
          found (":".intercalate (before ++ after)) currentDir := by
  intro found lacks
  have searched (search : String) (currentDir : Path) :
      found search currentDir = files.searchFor here search name :=
    files.findCommand_eq_searchFor here named plain search currentDir
  refine ⟨?_, ?_, ?_, ?_, ?_⟩
  · intro search currentDir program
    rw [searched, searchFor_eq_some_iff]
  · intro search currentDir
    rw [searched, searchFor_eq_none_iff]
  · intro search currentDir otherDir
    rw [searched, searched]
  · intro first second currentDir
    rw [searched, searched, searched, searchFor_append]
  · intro before entry after currentDir free idle
    rw [searched, searched, searchFor_insert files here name free idle]

theorem findCommand_of_name_tool :
    let files : FileSystem :=
      { entries := [(["opt"], .directory), (["opt", "tool"], .file 0o644 []), (["bin"], .directory),
          (["bin", "tool"], .file 0o755 [])] }
    (⟨"tool"⟩ : Path).text ≠ "" ∧ '/' ∉ (⟨"tool"⟩ : Path).text.toList ∧
      files.findCommand [] ":/opt:/bin" ⟨"/home"⟩ ⟨"tool"⟩ = some ⟨"/bin/tool"⟩ := by
  intro files
  have plain : files.isExecutable [] ⟨"/opt/tool"⟩ = false :=
    (isExecutable_of_node files [] rfl rfl rfl rfl rfl (by simp) (by decide)).trans (by decide)
  have runs : files.isExecutable [] ⟨"/bin/tool"⟩ = true :=
    (isExecutable_of_node files [] rfl rfl rfl rfl rfl (by simp) (by decide)).trans (by decide)
  obtain ⟨found, -⟩ := @findCommand_of_name files [] ⟨"tool"⟩ (by decide) (by decide)
  refine ⟨by decide, by decide, (found _ _ _).mpr ⟨["", "/opt"], "/bin", [], ?_⟩⟩
  refine ⟨by decide, by decide, by decide, runs, ?_⟩
  intro earlier listed some
  have last : earlier = "/opt" := by simpa [some] using listed
  rw [last]
  exact plain

end FileSystem

end LineShell
