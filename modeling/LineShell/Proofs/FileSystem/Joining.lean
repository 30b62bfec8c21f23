import LineShell.Proofs.FileSystem.Canonical
import Mathlib.Data.List.TakeWhile
/-!
Paths followed in two parts. Where a path leads to a directory, what is written behind it leads to where the
same leads when it is written behind the path of that directory, links and all. Only the bounds on paths could
tell the two ways apart, for they go by other places and by more or fewer links; so all this is about paths
on which no bound is met.
-/

namespace LineShell

/-! ## Paths written behind one another -/

/-- A path with more written behind a separator. -/
def Path.below (path : Path) (rest : String) : Path :=
  ⟨path.text ++ "/" ++ rest⟩

theorem Path.toList_below (path : Path) (rest : String) :
    (path.below rest).text.toList = path.text.toList ++ '/' :: rest.toList := by
  simp [below]

theorem Path.isAbsolute_below {path : Path} (named : path.text ≠ "") (rest : String) :
    (path.below rest).isAbsolute = path.isAbsolute := by
  have first : path.text.toList ≠ [] := by simpa using named
  obtain ⟨c, text, same⟩ := List.exists_cons_of_ne_nil first
  rw [isAbsolute, toList_below, isAbsolute, same, List.cons_append, List.head?_cons, List.head?_cons]

theorem Path.join_below (base : Path) {path : Path} (named : path.text ≠ "") (rest : String) :
    base.join (path.below rest) = (base.join path).below rest := by
  unfold join
  rw [isAbsolute_below named]
  split
  · rfl
  · split <;> simp [below, String.append_assoc]

theorem Path.toList_join {path : Path} (relative : path.isAbsolute = false) (base : Path) :
    ∃ between, (base.join path).text.toList = base.text.toList ++ between ++ path.text.toList ∧
      ∀ c ∈ between, c = '/' := by
  unfold join
  rw [relative]
  split
  · contradiction
  · split
    · exact ⟨[], by simp, nofun⟩
    · exact ⟨['/'], by simp, by simp⟩

namespace Route

theorem allSteps_eq (route : Route) :
    ∃ stays, (∀ step ∈ stays, step = .stay) ∧ route.steps ++ stays = route.allSteps := by
  unfold allSteps
  split
  · exact ⟨[.stay], by simp, rfl⟩
  · exact ⟨[], nofun, List.append_nil route.steps⟩

theorem allSteps_append (absolute : Bool) (steps : List Step) (route : Route) :
    allSteps ⟨absolute, steps ++ route.steps, route.trailing⟩ = steps ++ route.allSteps := by
  unfold allSteps
  split <;> simp

theorem ofPath_below {path : Path} (named : path.text ≠ "") {rest : String} (filled : rest ≠ "") :
    ofPath (path.below rest) =
      ⟨path.isAbsolute, (ofPath path).steps ++ (ofPath ⟨rest⟩).steps, (ofPath ⟨rest⟩).trailing⟩ := by
  have last : rest.toList ≠ [] := by simpa using filled
  have ends : (path.text.toList ++ '/' :: rest.toList).getLast? = rest.toList.getLast? := by
    simp [List.getLast?_append, List.getLast?_cons_of_ne_nil last, List.getLast?_eq_some_getLast last]
  simp only [ofPath, Path.isAbsolute_below named, Path.toList_below, Text.fields_append_separator,
    List.filterMap_append, ends]

theorem ofPath_join_path {location : Location} (names : ∀ name ∈ location, IsName name) {path : Path}
    (relative : path.isAbsolute = false) (named : path.text ≠ "") :
    ofPath (location.path.join path) =
      ⟨true, location.map .down ++ (ofPath path).steps, (ofPath path).trailing⟩ := by
  by_cases root : location = []
  · subst root
    have joined : Path.join (Location.path []) path = ⟨"/" ++ path.text⟩ := by
      simp [Path.join, relative, Location.path]
    have text : path.text.toList ≠ [] := by simpa using named
    have empty : stepOfField? [] = none := rfl
    rw [joined]
    simp [ofPath, Path.isAbsolute, Text.fields, empty, List.getLast?_cons_of_ne_nil text]
  · have read := ofPath_path names
    have plain : location.path.text.toList.getLast? ≠ some '/' := by
      simpa [ofPath, root] using congrArg trailing read
    have joined : location.path.join path = location.path.below path.text := by
      have last : location.path.text.toList.getLast?.all (· = '/') = false := by
        rw [location.toList_path] at plain ⊢
        rw [List.getLast?_eq_some_getLast (List.cons_ne_nil _ _)] at plain ⊢
        simpa using plain
      simp [Path.join, relative, last, Path.below]
    rw [joined, ofPath_below (by simp [Location.path]) named, read, location.isAbsolute_path]

end Route

namespace FileSystem

variable {files wider : FileSystem} {here there location : Location} {links : Nat}

/-! ## Walks in two parts -/

/-- The same files, seen with bounds on names and on places that are no tighter. -/
structure Wider (files wider : FileSystem) : Prop where
  nodes : wider.node? = files.node?
  nameBytes : files.limits.nameBytes ≤ wider.limits.nameBytes
  pathBytes : files.limits.pathBytes ≤ wider.limits.pathBytes

theorem Wider.refl : files.Wider files :=
  ⟨rfl, Nat.le_refl _, Nat.le_refl _⟩

theorem Wider.inReach (than : files.Wider wider) {behind : Nat}
    (near : files.isOutOfReach location behind = false) : wider.isOutOfReach location behind = false := by
  have bound := than.pathBytes
  simp only [isOutOfReach, decide_eq_false_iff_not] at near ⊢
  omega

theorem Wider.descends (than : files.Wider wider) {name : String} {node : Node}
    (descends : files.Descends here name node) : wider.Descends here name node where
  inside := than.nodes ▸ descends.inside
  standing := than.nodes ▸ descends.standing
  direct := descends.direct
  plain := descends.plain
  near := than.inReach descends.near
  short := Nat.le_trans descends.short than.nameBytes

theorem asksForDirectory_stays {stays : List Step} (still : ∀ step ∈ stays, step = .stay)
    (some : stays ≠ []) : asksForDirectory stays = true := by
  have none : stays.dropWhile (· = .stay) = [] := by
    simpa [List.dropWhile_eq_nil_iff] using still
  simp [asksForDirectory, some, none]

/-- What steps ask for is settled by the first that leads on. -/
theorem asksForDirectory_append {steps : List Step} (leads : ¬ ∀ step ∈ steps, step = .stay)
    (more : List Step) : asksForDirectory (steps ++ more) = asksForDirectory steps := by
  have some : steps ≠ [] := by
    rintro rfl
    exact leads nofun
  have first : steps.dropWhile (· = .stay) ≠ [] := by
    simpa [List.dropWhile_eq_nil_iff] using leads
  obtain ⟨step, rest, same⟩ := List.exists_cons_of_ne_nil first
  cases step <;> simp [asksForDirectory, some, List.dropWhile_append, same]

theorem canonicalWalk_stays {stays : List Step} (still : ∀ step ∈ stays, step = .stay) :
    files.canonicalWalk links here stays = .ok here := by
  induction stays with
  | nil => rw [canonicalWalk]
  | cons step rest ih =>
      obtain ⟨rfl, later⟩ := List.forall_mem_cons.mp still
      rw [canonicalWalk, ih later]

theorem canonicalWalk_of_descends {name : String} {node : Node}
    (descends : files.Descends here name node) {rest : List Step}
    (asked : asksForDirectory rest = true →
      node = .directory ∧ files.isOutOfReach (here ++ [name]) directoryMark.utf8ByteSize = false) :
    files.canonicalWalk links here (.down name :: rest) =
      files.canonicalWalk links (here ++ [name]) rest := by
  obtain ⟨inside, standing, direct, plain, near, short⟩ := descends
  rw [canonicalWalk]
  simp only [near, isDirectory, inside, Nat.not_lt.mpr short, standing, decide_true, Bool.not_true,
    Bool.false_eq_true, if_false]
  by_cases asks : asksForDirectory rest = true
  · obtain ⟨directory, reach⟩ := asked asks
    simp [asks, directory, reach]
  · simp [asks]

theorem canonicalWalk_of_link {name : String} {target : Path}
    (near : files.isOutOfReach (here ++ [name]) 0 = false) (inside : files.isDirectory here = true)
    (short : name.utf8ByteSize ≤ files.limits.nameBytes)
    (standing : files.node? (here ++ [name]) = some (.link target)) (rest : List Step) :
    files.canonicalWalk (links + 1) here (.down name :: rest) =
      files.canonicalWalk links ((Route.ofPath target).start here)
        ((Route.ofPath target).allSteps ++ rest) := by
  rw [canonicalWalk]
  simp [near, inside, Nat.not_lt.mpr short, standing]

theorem cons_of_append_stays {steps stays rest : List Step} {step : Step}
    (still : ∀ step ∈ stays, step = .stay) (leads : step ≠ .stay)
    (whole : steps ++ stays = step :: rest) : ∃ later, steps = step :: later ∧ later ++ stays = rest := by
  obtain ⟨-, same⟩ | ⟨later, same, tail⟩ := List.append_eq_cons_iff.mp whole
  · exact absurd (still step (same ▸ List.mem_cons_self)) leads
  · exact ⟨later, same, tail.symm⟩

/-- Steps that lead to a directory may be followed by any others, in place of what only stays there. These go
on from the directory, and the links on the way are paid from the budget first. -/
theorem canonicalWalk_append {all : List Step} (walked : files.canonicalWalk links here all = .ok there)
    (directory : files.node? there = some .directory) :
    ∃ used ≤ links, ∀ steps stays, (∀ step ∈ stays, step = .stay) → steps ++ stays = all →
      ∀ wider, files.Wider wider → wider.isOutOfReach there directoryMark.utf8ByteSize = false →
      ∀ left more,
        wider.canonicalWalk (used + left) here (steps ++ more) = wider.canonicalWalk left there more := by
  -- By the recursion of the walk: each step that it took is taken again, and only a link costs anything.
  fun_induction canonicalWalk files links here all with
  | case1 links here =>
      cases walked
      refine ⟨0, Nat.zero_le links, fun steps stays still whole wider than room left more => ?_⟩
      obtain ⟨rfl, -⟩ := List.append_eq_nil_iff.mp whole
      rw [Nat.zero_add, List.nil_append]
  | case2 links here rest ih =>
      obtain ⟨used, paid, onward⟩ := ih walked
      refine ⟨used, paid, fun steps stays still whole wider than room left more => ?_⟩
      obtain ⟨rfl, rfl⟩ | ⟨later, rfl, tail⟩ := List.append_eq_cons_iff.mp whole
      · exact onward [] rest (List.forall_mem_cons.mp still).2 rfl wider than room left more
      · rw [List.cons_append, canonicalWalk, onward later stays still tail.symm wider than room]
  | case3 links here rest ih =>
      obtain ⟨used, paid, onward⟩ := ih walked
      refine ⟨used, paid, fun steps stays still whole wider than room left more => ?_⟩
      obtain ⟨later, rfl, tail⟩ := cons_of_append_stays still (by simp) whole
      rw [List.cons_append, canonicalWalk, onward later stays still tail wider than room]
  | case10 here name rest there near inside short target standing links route ih =>
      obtain ⟨used, paid, onward⟩ := ih walked
      refine ⟨used + 1, Nat.succ_le_succ paid, fun steps stays still whole wider than room left more => ?_⟩
      obtain ⟨later, rfl, rfl⟩ := cons_of_append_stays still (by simp) whole
      have bound := Nat.le_trans (Nat.not_lt.mp short) than.nameBytes
      have followed : wider.node? (here ++ [name]) = some (.link target) := than.nodes ▸ standing
      have within : wider.isDirectory here = true := by
        rw [isDirectory, than.nodes]
        simpa [isDirectory] using inside
      rw [Nat.add_right_comm, List.cons_append,
        canonicalWalk_of_link (than.inReach (by simpa using near)) within bound followed,
        ← List.append_assoc, onward _ stays still (List.append_assoc ..) wider than room]
  | case11 links here name rest there near inside short node device direct standing asks ih =>
      obtain ⟨used, paid, onward⟩ := ih walked
      have descends := Descends.of_checked near inside short standing direct device
      refine ⟨used, paid, fun steps stays still whole wider than room left more => ?_⟩
      obtain ⟨later, rfl, rfl⟩ := cons_of_append_stays still (by simp) whole
      rw [List.cons_append, canonicalWalk_of_descends (than.descends descends),
        onward later stays still rfl wider than room]
      intro asked
      by_cases leads : ∀ step ∈ later, step = .stay
      · -- Nothing was asked for before, so the place is the last, which is a directory.
        have none : later ++ stays = [] := by
          refine Classical.byContradiction fun some => ?_
          have asked := asksForDirectory_stays (List.forall_mem_append.mpr ⟨leads, still⟩) some
          rw [asked] at asks
          contradiction
        rw [none, canonicalWalk, Except.ok.injEq] at walked
        rw [← walked] at directory room
        exact ⟨Option.some.inj (standing.symm.trans directory), room⟩
      · rw [asksForDirectory_append leads] at asked
        rw [asksForDirectory_append leads, asked] at asks
        contradiction
  | case14 links here name rest there near inside short node device direct standing asks reach folder ih =>
      obtain ⟨used, paid, onward⟩ := ih walked
      have descends := Descends.of_checked near inside short standing direct device
      refine ⟨used, paid, fun steps stays still whole wider than room left more => ?_⟩
      obtain ⟨later, rfl, rfl⟩ := cons_of_append_stays still (by simp) whole
      rw [List.cons_append, canonicalWalk_of_descends (than.descends descends),
        onward later stays still rfl wider than room]
      exact fun _ => ⟨by simpa using folder, than.inReach (by simpa using reach)⟩
  | _ => contradiction

/-- What a walk comes to depends on the nodes and on two of the bounds. Of links its budget tells alone. -/
theorem canonicalWalk_congr {other : FileSystem} (nodes : other.node? = files.node?)
    (nameBytes : other.limits.nameBytes = files.limits.nameBytes)
    (pathBytes : other.limits.pathBytes = files.limits.pathBytes) (links : Nat) (here : Location)
    (steps : List Step) : other.canonicalWalk links here steps = files.canonicalWalk links here steps := by
  have reach (place : Location) (behind : Nat) :
      other.isOutOfReach place behind = files.isOutOfReach place behind := by
    rw [isOutOfReach, pathBytes, isOutOfReach]
  have folder (place : Location) : other.isDirectory place = files.isDirectory place := by
    rw [isDirectory, nodes, isDirectory]
  induction links generalizing here steps with
  | zero =>
      induction steps generalizing here with
      | nil => simp only [canonicalWalk]
      | cons step rest ih =>
          cases step <;> simp only [canonicalWalk, reach, folder, nodes, nameBytes, ih]
  | succ links followed =>
      induction steps generalizing here with
      | nil => simp only [canonicalWalk]
      | cons step rest ih =>
          cases step <;> simp only [canonicalWalk, reach, folder, nodes, nameBytes, ih, followed]

end FileSystem

/-! ## Paths on which no bound is met -/

/-- Bounds that are all at most others. -/
structure PathLimits.AtMost (limits others : PathLimits) : Prop where
  links : limits.links ≤ others.links
  nameBytes : limits.nameBytes ≤ others.nameBytes
  pathBytes : limits.pathBytes ≤ others.pathBytes

namespace FileSystem

variable {files : FileSystem} {here location : Location}

def withLimits (files : FileSystem) (limits : PathLimits) : FileSystem :=
  { files with limits }

/-- No bound is met on a path: where it leads is the same however far the bounds are raised. -/
def Unhindered (files : FileSystem) (here : Location) (path : Path) : Prop :=
  ∀ limits, files.limits.AtMost limits →
    (files.withLimits limits).canonicalize here path = files.canonicalize here path

theorem withLimits_wider {limits : PathLimits} (raised : files.limits.AtMost limits) :
    files.Wider (files.withLimits limits) :=
  ⟨rfl, raised.nameBytes, raised.pathBytes⟩

theorem canonicalize_of_spelled {path : Path} (spelled : checkPath path = .ok ())
    (standing : files.isDirectory ((Route.ofPath path).start here) = true) :
    files.canonicalize here path =
      (files.canonicalWalk files.limits.links ((Route.ofPath path).start here)
        (Route.ofPath path).allSteps).mapError .system := by
  have standing : files.node? ((Route.ofPath path).start here) = some .directory := by
    simpa [isDirectory] using standing
  cases walked : files.canonicalWalk files.limits.links ((Route.ofPath path).start here)
      (Route.ofPath path).allSteps with
  | ok there => exact canonicalize_of_walk spelled standing walked
  | error errno => exact canonicalize_of_walk_error spelled standing walked

theorem canonicalize_of_soiled {path : Path} (soiled : '\x00' ∈ path.text.toList) (here : Location) :
    files.canonicalize here path = .error .nulInFileName := by
  simp [canonicalize, checkPath, soiled, bind, Except.bind, throw, throwThe, MonadExceptOf.throw]

theorem Reached.canonicalWalk (reached : files.Reached location)
    (directory : files.node? location = some .directory) (links : Nat) :
    files.canonicalWalk links [] (location.map .down) = .ok location := by
  have canonical := reached.toSettled.canonical directory
  exact canonicalWalk_downs rfl
    (fun place _ some within => ⟨reached.near place within some, canonical.directories place within⟩)
    fun name listed => Nat.not_lt.mpr (reached.short name listed)

theorem Reached.wider (reached : files.Reached location) {wider : FileSystem}
    (than : files.Wider wider) : wider.Reached location where
  names := reached.names
  above := by rw [than.nodes]; exact reached.above
  here := by rw [than.nodes]; exact reached.here
  near place above some := than.inReach (reached.near place above some)
  short name listed := Nat.le_trans (reached.short name listed) than.nameBytes
  spelled := reached.spelled

section Behind

variable {rest : String} (filled : rest ≠ "") (clean : '\x00' ∉ rest.toList)

include filled clean

/-- What is written behind a path that leads to a directory is followed from there, with the links that are
left. -/
theorem canonicalize_below_of_found {path : Path} (found : files.canonicalize here path = .ok location)
    (directory : files.node? location = some .directory) :
    ∃ used, ∀ wider left, files.Wider wider →
      wider.isOutOfReach location directoryMark.utf8ByteSize = false → wider.limits.links = used + left →
      wider.canonicalize here (path.below rest) =
        (wider.canonicalWalk left location (Route.ofPath ⟨rest⟩).allSteps).mapError .system := by
  obtain ⟨spelled, standing, walked⟩ := walk_of_canonicalize found
  obtain ⟨free, text⟩ := checkPath_eq_ok_iff.mp spelled
  have named : path.text ≠ "" := by simpa using text
  have spelled : checkPath (path.below rest) = .ok () :=
    checkPath_eq_ok_iff.mpr (by simp [Path.toList_below, free, clean])
  have read := Route.ofPath_below named filled
  have start : (Route.ofPath (path.below rest)).start here = (Route.ofPath path).start here := by
    rw [read]
    rfl
  obtain ⟨stays, still, split⟩ := (Route.ofPath path).allSteps_eq
  obtain ⟨used, -, onward⟩ := canonicalWalk_append walked directory
  refine ⟨used, fun wider left than room budget => ?_⟩
  have inside : wider.isDirectory ((Route.ofPath (path.below rest)).start here) = true := by
    rw [start, isDirectory, than.nodes]
    exact standing
  rw [canonicalize_of_spelled spelled inside, start, read, Route.allSteps_append, budget,
    onward _ stays still split wider than room]

/-- What is written behind the path of a directory is followed from there. -/
theorem Reached.canonicalize_join (reached : files.Reached location)
    (directory : files.node? location = some .directory)
    (room : files.isOutOfReach location directoryMark.utf8ByteSize = false)
    (relative : (⟨rest⟩ : Path).isAbsolute = false) (here : Location) :
    files.canonicalize here (location.path.join ⟨rest⟩) =
      (files.canonicalWalk files.limits.links location (Route.ofPath ⟨rest⟩).allSteps).mapError
        .system := by
  have absolute := Path.isAbsolute_join location.isAbsolute_path ⟨rest⟩
  have spelled : checkPath (location.path.join ⟨rest⟩) = .ok () := by
    obtain ⟨between, joined, slashes⟩ := Path.toList_join relative location.path
    have canonical := reached.toSettled.canonical directory
    obtain ⟨own, -⟩ := walk_of_canonicalize (reached.canonicalize_path rfl canonical.directories here)
    obtain ⟨free, named⟩ := checkPath_eq_ok_iff.mp own
    have apart : '\x00' ∉ between := fun inside => absurd (slashes _ inside) (by decide)
    exact checkPath_eq_ok_iff.mpr (by simp [joined, free, apart, clean, named])
  obtain ⟨used, none, onward⟩ := canonicalWalk_append (reached.canonicalWalk directory 0) directory
  obtain rfl := Nat.le_zero.mp none
  have follows := onward (location.map .down) [] nofun (List.append_nil _) files .refl room
  have start := start_of_isAbsolute absolute here
  rw [canonicalize_of_spelled spelled (start ▸ rfl), start,
    Route.ofPath_join_path reached.names relative filled, Route.allSteps_append, ← follows, Nat.zero_add]

end Behind

/-- Where a path leads to a directory, what is written behind the path leads to where the same leads behind
the path of that directory, or both lead nowhere and for one reason. -/
theorem canonicalize_below {path : Path} {elsewhere : Location}
    (found : files.canonicalize here path = .ok location) (reached : files.Reached location)
    (directory : files.node? location = some .directory) {rest : String}
    (relative : (⟨rest⟩ : Path).isAbsolute = false) (filled : rest ≠ "")
    (whole : files.Unhindered here (path.below rest))
    (onward : files.Unhindered elsewhere (location.path.join ⟨rest⟩)) :
    files.canonicalize here (path.below rest) =
      files.canonicalize elsewhere (location.path.join ⟨rest⟩) := by
  by_cases soiled : '\x00' ∈ rest.toList
  · obtain ⟨between, joined, -⟩ := Path.toList_join relative location.path
    rw [canonicalize_of_soiled (by simp [Path.toList_below, soiled]),
      canonicalize_of_soiled (by simp [joined, soiled])]
  · obtain ⟨used, follows⟩ := canonicalize_below_of_found filled soiled found directory
    -- The links on the path count against the bound only where the whole path is followed.
    let raised (links : Nat) : PathLimits :=
      { links
        nameBytes := files.limits.nameBytes
        pathBytes := files.limits.pathBytes +
          (location.path.text.utf8ByteSize + directoryMark.utf8ByteSize) }
    have beyond (links : Nat) (more : files.limits.links ≤ links) : files.limits.AtMost (raised links) :=
      ⟨more, Nat.le_refl _, Nat.le_add_right ..⟩
    have room (links : Nat) :
        (files.withLimits (raised links)).isOutOfReach location directoryMark.utf8ByteSize = false := by
      refine decide_eq_false ?_
      simp only [withLimits, raised]
      omega
    have first := beyond (used + files.limits.links) (Nat.le_add_left ..)
    have second := beyond files.limits.links (Nat.le_refl _)
    have wider := withLimits_wider second
    rw [← whole _ first, ← onward _ second, follows _ _ (withLimits_wider first) (room _) rfl,
      (reached.wider wider).canonicalize_join filled soiled (wider.nodes ▸ directory) (room _) relative]
    exact congrArg _ (canonicalWalk_congr (by rfl) (by rfl) (by rfl) ..)

/-- No bound is met on a path that leads to a directory, if there is room for the mark of one behind it. -/
theorem unhindered_of_found {path : Path} (found : files.canonicalize here path = .ok location)
    (directory : files.node? location = some .directory)
    (room : files.isOutOfReach location directoryMark.utf8ByteSize = false) :
    files.Unhindered here path := by
  intro limits raised
  obtain ⟨spelled, standing, walked⟩ := walk_of_canonicalize found
  obtain ⟨used, paid, onward⟩ := canonicalWalk_append walked directory
  obtain ⟨stays, still, split⟩ := (Route.ofPath path).allSteps_eq
  have than := withLimits_wider raised
  have budget : used + (limits.links - used) = limits.links :=
    Nat.add_sub_cancel' (Nat.le_trans paid raised.links)
  have followed := onward _ stays still split _ than (than.inReach room) (limits.links - used) stays
  rw [budget, split, canonicalWalk_stays still] at followed
  have inside : (files.withLimits limits).node? ((Route.ofPath path).start here) = some .directory := by
    rw [than.nodes]
    simpa [isDirectory] using standing
  rw [found]
  exact canonicalize_of_walk spelled inside followed

end FileSystem

end LineShell
