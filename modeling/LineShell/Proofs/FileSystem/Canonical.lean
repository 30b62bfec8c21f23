import LineShell.FileSystem.Canonical
import LineShell.Proofs.FileSystem.Opening
/-!
Places whose path leads to themselves. One of these is every directory that the canonical place of a path
is: the way there has been walked name by name, and no name on it was that of a link.
-/

namespace LineShell

/-- A name by which a path can lead down. -/
def Route.IsName (name : String) : Prop :=
  '/' ∉ name.toList ∧ stepOfField? name.toList = some (.down name)

theorem Route.toList_of_stepOfField? {field : List Char} {name : String}
    (step : stepOfField? field = some (.down name)) : name.toList = field := by
  unfold stepOfField? at step
  split at step <;> cases step
  exact String.toList_ofList

theorem Route.exists_field {path : Path} {name : String} (step : .down name ∈ (ofPath path).allSteps) :
    name.toList ∈ Text.fields '/' path.text.toList ∧ stepOfField? name.toList = some (.down name) := by
  have listed : .down name ∈ (ofPath path).steps := by
    unfold allSteps at step
    split at step
    · simpa using step
    · exact step
  obtain ⟨field, found, same⟩ := List.mem_filterMap.mp listed
  rw [toList_of_stepOfField? same]
  exact ⟨found, same⟩

theorem Route.isName_of_ofPath {path : Path} {name : String}
    (step : .down name ∈ (ofPath path).allSteps) : IsName name := by
  obtain ⟨found, same⟩ := exists_field step
  exact ⟨Text.not_mem_of_mem_fields found, same⟩

theorem Route.mem_of_ofPath {path : Path} {name : String} (step : .down name ∈ (ofPath path).allSteps)
    {c : Char} (inside : c ∈ name.toList) : c ∈ path.text.toList := by
  obtain ⟨found, -⟩ := exists_field step
  have among := @Text.mem_intercalate_of_mem '/' _ _ _ found inside
  rwa [Text.intercalate_fields] at among

theorem Route.filterMap_toList {names : List String} (all : ∀ name ∈ names, IsName name) :
    (names.map String.toList).filterMap stepOfField? = names.map .down := by
  induction names with
  | nil => rfl
  | cons name rest ih =>
      have first := (all name List.mem_cons_self).2
      have tail := ih fun other listed => all other (List.mem_cons_of_mem name listed)
      simp only [List.map_cons, List.filterMap_cons, first, tail]

theorem Location.toList_path (location : Location) :
    location.path.text.toList = '/' :: ['/'].intercalate (location.map String.toList) := by
  simp [Location.path, String.toList_intercalate]

theorem Location.isAbsolute_path (location : Location) : location.path.isAbsolute = true := by
  rw [Path.isAbsolute, location.toList_path]
  rfl

/-- The steps that the path of a place takes from the root are its names. -/
theorem Route.ofPath_path {location : Location} (names : ∀ name ∈ location, IsName name) :
    ofPath location.path = ⟨true, location.map .down, location = []⟩ := by
  by_cases root : location = []
  · subst root
    rfl
  · have fields : Text.fields '/' location.path.text.toList = [] :: location.map String.toList := by
      rw [location.toList_path, Text.fields, if_pos rfl, Text.fields_intercalate _ (by simpa using root)]
      intro piece listed
      obtain ⟨name, named, rfl⟩ := List.mem_map.mp listed
      exact (names name named).1
    -- A separator at the end would leave an empty field behind it.
    have plain : location.path.text.toList.getLast? ≠ some '/' := by
      intro ends
      obtain ⟨front, split⟩ := List.getLast?_eq_some_iff.mp ends
      have last : ([] :: location.map String.toList).getLast? = some [] := by
        rw [← fields, split, Text.fields_append_separator, Text.fields, List.getLast?_concat]
      rw [List.getLast?_cons_of_ne_nil (by simpa using root)] at last
      obtain ⟨name, named, empty⟩ := List.mem_map.mp (List.mem_of_getLast? last)
      have step := (names name named).2
      rw [empty] at step
      contradiction
    simp only [ofPath, location.isAbsolute_path, fields, root, plain, List.filterMap_cons,
      filterMap_toList names, stepOfField?, decide_false]

namespace FileSystem

variable {files : FileSystem} {here there location : Location} {links left : Nat}

/-! ## Walking along directories -/

/-- A place whose path runs along directories only. -/
structure Canonical (files : FileSystem) (location : Location) : Prop where
  names : ∀ name ∈ location, Route.IsName name
  directories : ∀ place, place <+: location → files.node? place = some .directory

/-- Whether a path is within the bounds of what the system follows. -/
structure Within (files : FileSystem) (location : Location) : Prop where
  spelled : checkPath location.path = .ok ()
  short : files.checkLength location.path = .ok ()
  names : ∀ name ∈ location, name.utf8ByteSize ≤ files.limits.nameBytes

theorem walk_downs_iff {names : List String}
    (directories : ∀ place, here <+: place → place <+: here ++ names →
      files.node? place = some .directory) :
    files.walk links here (names.map .down) = .ok (there, left) ↔
      there = here ++ names ∧ left = links ∧
        ∀ name ∈ names, name.utf8ByteSize ≤ files.limits.nameBytes := by
  induction names generalizing here with
  | nil => simp [walk, eq_comm]
  | cons name rest ih =>
      have standing : files.node? here = some .directory :=
        directories here (List.prefix_refl here) (List.prefix_append here _)
      have next : files.node? (here ++ [name]) = some .directory :=
        directories _ (List.prefix_append here _) ⟨rest, by simp⟩
      rw [List.map_cons, walk]
      simp only [standing, next]
      by_cases long : files.limits.nameBytes < name.utf8ByteSize
      · simp only [if_pos long, reduceCtorEq, List.forall_mem_cons, false_iff]
        rintro ⟨-, -, short, -⟩
        omega
      · have further (place : Location) (above : here ++ [name] <+: place)
            (below : place <+: here ++ [name] ++ rest) : files.node? place = some .directory :=
          directories place ((List.prefix_append here [name]).trans above) (by simpa using below)
        have tail := ih further
        simp only [if_neg long, tail, List.append_assoc, List.singleton_append, List.forall_mem_cons,
          Nat.not_lt.mp long, true_and]

theorem locate_eq_ok_iff {path : Path} :
    files.locate here path = .ok there ↔
      checkPath path = .ok () ∧ files.checkLength path = .ok () ∧
        ∃ left, files.walk files.limits.links ((Route.ofPath path).start here)
          (Route.ofPath path).allSteps = .ok (there, left) := by
  constructor
  · intro located
    unfold locate at located
    cases spelled : checkPath path with
    | error cause => simp [spelled, bind, Except.bind] at located
    | ok _ =>
        cases short : files.checkLength path with
        | error cause => simp [spelled, short, bind, Except.bind] at located
        | ok _ =>
            simp only [spelled, short, bind, Except.bind] at located
            split at located
            · next place left walked =>
                cases located
                exact ⟨rfl, rfl, left, walked⟩
            · contradiction
  · rintro ⟨spelled, short, left, walked⟩
    exact locate_of_walk spelled short walked

/-- The path of a canonical place leads there or, where it is out of bounds, nowhere. -/
theorem Canonical.locate_path_iff (canonical : files.Canonical location) :
    files.locate here location.path = .ok there ↔ there = location ∧ files.Within location := by
  have walked : (∃ left, files.walk files.limits.links ((Route.ofPath location.path).start here)
        (Route.ofPath location.path).allSteps = .ok (there, left)) ↔
      there = location ∧ ∀ name ∈ location, name.utf8ByteSize ≤ files.limits.nameBytes := by
    rw [Route.ofPath_path canonical.names]
    by_cases root : location = []
    · subst root
      simp [Route.start, Route.allSteps, walk, node?, eq_comm]
    · have along (left : Nat) := @walk_downs_iff files [] there files.limits.links left location
        fun place _ below => canonical.directories place below
      simp [Route.start, Route.allSteps, root, along]
  rw [locate_eq_ok_iff, walked]
  constructor
  · rintro ⟨spelled, short, same, names⟩
    exact ⟨same, spelled, short, names⟩
  · rintro ⟨same, within⟩
    exact ⟨within.spelled, within.short, same, within.names⟩

/-! ## Walking name by name -/

/-- A place come to name by name: nothing but directories on the way, and no link there. -/
structure Settled (files : FileSystem) (location : Location) : Prop where
  names : ∀ name ∈ location, Route.IsName name
  above : ∀ place, place <+: location → place ≠ location → files.node? place = some .directory
  here : ∃ node, files.node? location = some node ∧ (∀ target, node ≠ .link target) ∧
    ∀ number, node ≠ .device (.descriptor number)

theorem Settled.root (files : FileSystem) : files.Settled [] where
  names := nofun
  above _ above other := absurd (List.prefix_nil.mp above) other
  here := ⟨.directory, rfl, nofun, nofun⟩

theorem Settled.dropLast (settled : files.Settled location) : files.Settled location.dropLast := by
  have shorter : location.dropLast <+: location := List.dropLast_prefix location
  by_cases root : location = []
  · subst root
    exact settled
  · have other : location.dropLast ≠ location := by
      intro same
      have lengths := congrArg List.length same
      have some := List.length_pos_iff.mpr root
      rw [List.length_dropLast] at lengths
      omega
    refine ⟨?_, ?_, ?_⟩
    · exact fun name listed => settled.names name (shorter.subset listed)
    · intro place above _
      apply settled.above place (above.trans shorter)
      rintro rfl
      exact other (shorter.eq_of_length_le above.length_le)
    · exact ⟨.directory, settled.above _ shorter other, nofun, nofun⟩

/-- A step down by a name, to something that is neither a link nor a stream. -/
structure Descends (files : FileSystem) (place : Location) (name : String) (node : Node) : Prop where
  inside : files.node? place = some .directory
  standing : files.node? (place ++ [name]) = some node
  direct : ∀ target, node ≠ .link target
  plain : ∀ number, node ≠ .device (.descriptor number)
  near : files.isOutOfReach (place ++ [name]) 0 = false
  short : name.utf8ByteSize ≤ files.limits.nameBytes

/-- What a walk looks at before it goes on makes a step down. -/
theorem Descends.of_checked {name : String} {node : Node}
    (near : ¬ files.isOutOfReach (here ++ [name]) 0 = true) (inside : ¬ (!files.isDirectory here) = true)
    (short : ¬ files.limits.nameBytes < name.utf8ByteSize)
    (standing : files.node? (here ++ [name]) = some node) (direct : ∀ target, node ≠ .link target)
    (plain : ∀ number, node ≠ .device (.descriptor number)) : files.Descends here name node where
  inside := by simpa [isDirectory] using inside
  standing := standing
  direct := direct
  plain := plain
  near := by simpa using near
  short := Nat.not_lt.mp short

theorem Settled.down (settled : files.Settled location) {name : String} {node : Node}
    (named : Route.IsName name) (descends : files.Descends location name node) :
    files.Settled (location ++ [name]) := by
  refine ⟨?_, ?_, node, descends.standing, descends.direct, descends.plain⟩
  · intro other listed
    rcases List.mem_append.mp listed with above | last
    · exact settled.names other above
    · rw [List.mem_singleton.mp last]
      exact named
  · intro place above other
    rcases List.prefix_concat_iff.mp above with same | above
    · exact absurd same other
    · by_cases here : place = location
      · rw [here]
        exact descends.inside
      · exact settled.above place above here

/-- What holds of the root and is kept by each step holds of the place that steps lead to. Of the names
on the way something may be known, as long as links have no others to offer. -/
theorem canonicalWalk_of_kept {Holds : Location → Prop} (Spelled : String → Prop) {steps : List Step}
    (root : Holds []) (up : ∀ {place}, Holds place → Holds place.dropLast)
    (down : ∀ {place name node}, Holds place → Spelled name → files.Descends place name node →
      Holds (place ++ [name]))
    (linked : ∀ {place target name}, files.node? place = some (.link target) →
      .down name ∈ (Route.ofPath target).allSteps → Spelled name)
    (start : Holds here) (spelled : ∀ name, .down name ∈ steps → Spelled name)
    (walked : files.canonicalWalk links here steps = .ok there) : Holds there := by
  fun_induction canonicalWalk files links here steps with
  | case1 =>
      cases walked
      exact start
  | case2 _ here rest ih =>
      exact ih start (fun name later => spelled name (List.mem_cons_of_mem _ later)) walked
  | case3 _ here rest ih =>
      exact ih (up start) (fun name later => spelled name (List.mem_cons_of_mem _ later)) walked
  | case10 here name rest there near inside short target standing links route ih =>
      have begun : Holds (route.start here) := by
        unfold Route.start
        split
        · exact root
        · exact start
      refine ih begun (fun other listed => ?_) walked
      rcases List.mem_append.mp listed with followed | later
      · exact linked standing followed
      · exact spelled other (List.mem_cons_of_mem _ later)
  | case11 _ here name rest there near inside short node device direct standing asks ih =>
      have further := down start (spelled name List.mem_cons_self)
        (.of_checked near inside short standing direct device)
      exact ih further (fun name later => spelled name (List.mem_cons_of_mem _ later)) walked
  | case14 _ here name rest there near inside short node device direct standing asks reach directory ih =>
      have further := down start (spelled name List.mem_cons_self)
        (.of_checked near inside short standing direct device)
      exact ih further (fun name later => spelled name (List.mem_cons_of_mem _ later)) walked
  | _ => contradiction

theorem canonicalWalk_downs {names : List String} (inside : files.node? here = some .directory)
    (below : ∀ place, here <+: place → place ≠ here → place <+: here ++ names →
      files.isOutOfReach place 0 = false ∧ files.node? place = some .directory)
    (short : ∀ name ∈ names, ¬ files.limits.nameBytes < name.utf8ByteSize) :
    files.canonicalWalk links here (names.map .down) = .ok (here ++ names) := by
  induction names generalizing here with
  | nil => simp [canonicalWalk]
  | cons name rest ih =>
      obtain ⟨near, standing⟩ := below (here ++ [name]) (List.prefix_append here _) (by simp)
        ⟨rest, by simp⟩
      have further (place : Location) (above : here ++ [name] <+: place)
          (other : place ≠ here ++ [name]) (within : place <+: here ++ [name] ++ rest) :
          files.isOutOfReach place 0 = false ∧ files.node? place = some .directory := by
        refine below place ((List.prefix_append here [name]).trans above) ?_ (by simpa using within)
        rintro rfl
        have longer := above.length_le
        rw [List.length_append, List.length_singleton] at longer
        omega
      have tail := ih standing further fun other listed => short other (List.mem_cons_of_mem _ listed)
      have plain : asksForDirectory (rest.map Step.down) = false := by
        cases rest <;> simp [asksForDirectory]
      rw [List.map_cons, canonicalWalk]
      simp [near, isDirectory, inside, short name List.mem_cons_self, standing, plain, tail]

theorem canonicalWalk_down {name : String} (near : files.isOutOfReach (here ++ [name]) 0 = false)
    (inside : files.node? here = some .directory)
    (short : ¬ files.limits.nameBytes < name.utf8ByteSize)
    (standing : files.node? (here ++ [name]) = some .directory) (links : Nat) :
    files.canonicalWalk links here [.down name] = .ok (here ++ [name]) := by
  have names : ∀ other ∈ [name], ¬ files.limits.nameBytes < other.utf8ByteSize := by
    intro other listed
    rw [List.mem_singleton.mp listed]
    exact short
  refine canonicalWalk_downs inside ?_ names
  intro place above other within
  obtain same | earlier := List.prefix_concat_iff.mp within
  · rw [same]
    exact ⟨near, standing⟩
  · exact absurd (earlier.eq_of_length_le above.length_le) other

theorem canonicalize_of_walk {path : Path} (spelled : checkPath path = .ok ())
    (standing : files.node? ((Route.ofPath path).start here) = some .directory)
    (walked : files.canonicalWalk files.limits.links ((Route.ofPath path).start here)
      (Route.ofPath path).allSteps = .ok there) :
    files.canonicalize here path = .ok there := by
  simp [canonicalize, spelled, isDirectory, standing, walked, bind, Except.bind, pure, Except.pure]

theorem canonicalize_of_walk_error {path : Path} {errno : Errno} (spelled : checkPath path = .ok ())
    (standing : files.node? ((Route.ofPath path).start here) = some .directory)
    (walked : files.canonicalWalk files.limits.links ((Route.ofPath path).start here)
      (Route.ofPath path).allSteps = .error errno) :
    files.canonicalize here path = .error (.system errno) := by
  simp [canonicalize, spelled, isDirectory, standing, walked, bind, Except.bind, throw, throwThe,
    MonadExceptOf.throw]

theorem checkPath_eq_ok_iff {path : Path} :
    checkPath path = .ok () ↔ '\x00' ∉ path.text.toList ∧ path.text.toList ≠ [] := by
  by_cases soiled : '\x00' ∈ path.text.toList
  · simp [checkPath, soiled, bind, Except.bind, throw, throwThe, MonadExceptOf.throw]
  · by_cases empty : path.text.toList = []
    · simp [checkPath, empty, throw, throwThe, MonadExceptOf.throw]
    · simp [checkPath, soiled, empty, pure, Except.pure]

theorem walk_of_canonicalize {path : Path} (found : files.canonicalize here path = .ok location) :
    checkPath path = .ok () ∧ files.isDirectory ((Route.ofPath path).start here) = true ∧
      files.canonicalWalk files.limits.links ((Route.ofPath path).start here)
        (Route.ofPath path).allSteps = .ok location := by
  unfold canonicalize at found
  cases spelled : checkPath path with
  | error cause => simp [spelled, bind, Except.bind] at found
  | ok _ =>
      cases standing : files.isDirectory ((Route.ofPath path).start here) with
      | false =>
          simp [spelled, standing, bind, Except.bind, throw, throwThe, MonadExceptOf.throw] at found
      | true =>
          simp only [spelled, standing, bind, Except.bind, pure, Except.pure, Bool.not_true,
            Bool.false_eq_true, if_false] at found
          split at found
          · next place walked =>
              cases found
              exact ⟨rfl, rfl, walked⟩
          · contradiction

theorem start_of_isAbsolute {path : Path} (absolute : path.isAbsolute = true) (here : Location) :
    (Route.ofPath path).start here = [] := by
  simp [Route.start, Route.ofPath, absolute]

theorem canonicalize_settled {path : Path} (absolute : path.isAbsolute = true)
    (found : files.canonicalize here path = .ok location) : files.Settled location := by
  obtain ⟨-, -, walked⟩ := walk_of_canonicalize found
  rw [start_of_isAbsolute absolute] at walked
  exact canonicalWalk_of_kept Route.IsName (.root files) Settled.dropLast
    (fun settled named descends => settled.down named descends)
    (fun _ listed => Route.isName_of_ofPath listed) (.root files)
    (fun _ listed => Route.isName_of_ofPath listed) walked

theorem Settled.canonical (settled : files.Settled location)
    (directory : files.node? location = some .directory) : files.Canonical location := by
  refine ⟨settled.names, fun place above => ?_⟩
  by_cases same : place = location
  · rw [same, directory]
  · exact settled.above place above same

/-! ## Coming back by the path of a place -/

/-- A settled place that was looked up by its path, within all bounds, and has no NUL in it. -/
structure Reached (files : FileSystem) (location : Location) : Prop extends files.Settled location where
  near : ∀ place, place <+: location → place ≠ [] → files.isOutOfReach place 0 = false
  short : ∀ name ∈ location, name.utf8ByteSize ≤ files.limits.nameBytes
  spelled : ∀ name ∈ location, '\x00' ∉ name.toList

theorem Reached.root (files : FileSystem) : files.Reached [] where
  toSettled := .root files
  near _ above some := absurd (List.prefix_nil.mp above) some
  short := nofun
  spelled := nofun

theorem Reached.dropLast (reached : files.Reached location) : files.Reached location.dropLast := by
  have shorter : location.dropLast <+: location := List.dropLast_prefix location
  refine ⟨reached.toSettled.dropLast, ?_, ?_, ?_⟩
  · exact fun place above => reached.near place (above.trans shorter)
  · exact fun name listed => reached.short name (shorter.subset listed)
  · exact fun name listed => reached.spelled name (shorter.subset listed)

theorem Reached.down (reached : files.Reached location) {name : String} {node : Node}
    (named : Route.IsName name) (free : '\x00' ∉ name.toList)
    (descends : files.Descends location name node) : files.Reached (location ++ [name]) := by
  have last {holds : String → Prop} (before : ∀ other ∈ location, holds other) (new : holds name) :
      ∀ other ∈ location ++ [name], holds other := by
    intro other listed
    rcases List.mem_append.mp listed with above | same
    · exact before other above
    · rw [List.mem_singleton.mp same]
      exact new
  refine ⟨reached.toSettled.down named descends, ?_, last reached.short descends.short,
    last reached.spelled free⟩
  intro place above some
  rcases List.prefix_concat_iff.mp above with rfl | earlier
  · exact descends.near
  · exact reached.near place earlier some

/-- No link leads by a name with a NUL, which is no name. -/
def Unspoiled (files : FileSystem) : Prop :=
  ∀ place target, files.node? place = some (.link target) → '\x00' ∉ target.text.toList

theorem unspoiled_of_entries {files : FileSystem} (closed : files.descriptors = [])
    (entries : ∀ entry ∈ files.entries, ∀ target, entry.2 = .link target →
      '\x00' ∉ target.text.toList) : files.Unspoiled := by
  intro place target standing
  unfold node? at standing
  split at standing
  · cases standing
  · obtain entry | ⟨-, stream⟩ := Option.or_eq_some_iff.mp standing
    · obtain ⟨_, _, split, -⟩ := List.lookup_eq_some_iff.mp entry
      exact entries (place, .link target) (by simp [split]) target rfl
    · unfold openNode? at stream
      split at stream
      · contradiction
      · simp [closed] at stream

theorem canonicalize_reached {path : Path} (unspoiled : files.Unspoiled)
    (start : path.isAbsolute = false → files.isDirectory here = true → files.Reached here)
    (found : files.canonicalize here path = .ok location) : files.Reached location := by
  obtain ⟨text, standing, walked⟩ := walk_of_canonicalize found
  have begun : files.Reached ((Route.ofPath path).start here) := by
    cases absolute : path.isAbsolute with
    | true =>
        rw [start_of_isAbsolute absolute]
        exact .root files
    | false =>
        have same : (Route.ofPath path).start here = here := by
          simp [Route.start, Route.ofPath, absolute]
        rw [same] at standing ⊢
        exact start absolute standing
  have named {path : Path} (free : '\x00' ∉ path.text.toList) {name : String}
      (listed : .down name ∈ (Route.ofPath path).allSteps) : Route.IsName name ∧ '\x00' ∉ name.toList :=
    ⟨Route.isName_of_ofPath listed, fun inside => free (Route.mem_of_ofPath listed inside)⟩
  exact canonicalWalk_of_kept (fun name => Route.IsName name ∧ '\x00' ∉ name.toList) (.root files)
    Reached.dropLast (fun reached spelled descends => reached.down spelled.1 spelled.2 descends)
    (fun standing listed => named (unspoiled _ _ standing) listed) begun
    (fun _ listed => named (checkPath_eq_ok_iff.mp text).1 listed) walked

/-- The path of a directory that was reached leads back to it, from wherever and as long as the
directories on the way are there. -/
theorem Reached.canonicalize_path (reached : files.Reached location) {later : FileSystem}
    (limits : later.limits = files.limits)
    (directories : ∀ place, place <+: location → later.node? place = some .directory) (here : Location) :
    later.canonicalize here location.path = .ok location := by
  have absolute := location.isAbsolute_path
  have text : checkPath location.path = .ok () := by
    refine checkPath_eq_ok_iff.mpr ⟨?_, by simp [location.toList_path]⟩
    rw [location.toList_path]
    intro inside
    rcases List.mem_cons.mp inside with slash | later
    · contradiction
    · obtain slash | ⟨piece, listed, among⟩ := Text.mem_of_mem_intercalate later
      · contradiction
      · obtain ⟨name, named, rfl⟩ := List.mem_map.mp listed
        exact reached.spelled name named among
  refine canonicalize_of_walk text ?_ ?_
  · rw [start_of_isAbsolute absolute]
    rfl
  · have walked : later.canonicalWalk later.limits.links [] (location.map .down) = .ok location := by
      refine canonicalWalk_downs rfl ?_ ?_
      · intro place _ some within
        rw [List.nil_append] at within
        refine ⟨?_, directories place within⟩
        rw [isOutOfReach, limits]
        exact reached.near place within some
      · intro name listed
        rw [limits]
        exact Nat.not_lt.mpr (reached.short name listed)
    rw [start_of_isAbsolute absolute, Route.ofPath_path reached.names]
    by_cases root : location = []
    · subst root
      simp [Route.allSteps, canonicalWalk]
    · simpa [Route.allSteps, root] using walked

end FileSystem

end LineShell
