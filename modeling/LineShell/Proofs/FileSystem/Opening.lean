import LineShell.FileSystem.OpenFile
/-!
What it does to the files to open one of them for writing and to write to it. The place that the path
names may change, and no other does.
-/

namespace LineShell

/-- What stands at a place once it is open for writing. -/
def Node.opened (append : Bool) : Option Node → Node
  | none => .file FileSystem.freshMode []
  | some (.file mode bytes) => .file mode (if append then bytes else [])
  | some node => node

def Node.bytes? : Node → Option Bytes
  | .file _ bytes => some bytes
  | _ => none

theorem Node.opened_bytes {append : Bool} {old : Option Node} {mode : Nat} {bytes : Bytes}
    (regular : Node.opened append old = .file mode bytes) :
    bytes = if append then (old.bind Node.bytes?).getD [] else [] := by
  rcases old with _ | _ | ⟨_, content⟩ | _ | _ | _ <;> cases regular
  · cases append <;> rfl
  · cases append <;> rfl

namespace FileSystem

/-- The bytes of a file, if one stands at a place. -/
def bytes? (files : FileSystem) (place : Location) : Option Bytes :=
  (files.node? place).bind Node.bytes?

variable {files : FileSystem}

/-! ## The place that a path names -/

theorem walk_append (links : Nat) (here : Location) (steps rest : List Step) :
    files.walk links here (steps ++ rest) =
      match files.walk links here steps with
      | .error errno => .error errno
      | .ok (there, left) => files.walk left there rest := by
  fun_induction walk files links here steps with
  | case1 => rfl
  | case16 links here step steps node file standing =>
      rw [List.cons_append, walk.eq_def]
      simp [standing]
  | case7 | case14 =>
      rename_i ih
      rw [List.cons_append, walk]
      simp only [*, if_false]
      rw [← List.append_assoc]
      exact ih
  | _ =>
      rw [List.cons_append, walk]
      simp only [*, if_true, if_false]

section Last

variable {parent : Location} {name : String} (inside : files.node? parent = some .directory)
  (short : ¬ files.limits.nameBytes < name.utf8ByteSize)

include inside short

theorem walk_down {node : Node} (standing : files.node? (parent ++ [name]) = some node)
    (direct : ∀ target, node ≠ .link target) (links : Nat) :
    files.walk links parent [.down name] = .ok (parent ++ [name], links) := by
  rw [walk]
  simp only [inside, short, if_false, standing]
  rw [walk]

theorem walk_link {target : Path} (standing : files.node? (parent ++ [name]) = some (.link target))
    (links : Nat) :
    files.walk (links + 1) parent [.down name] =
      files.walk links ((Route.ofPath target).start parent) (Route.ofPath target).allSteps := by
  rw [walk]
  simp only [inside, short, if_false, standing, List.append_nil]

end Last

theorem allSteps_of_last {route : Route} {last : Step} (steps : route.steps.getLast? = some last)
    (plain : ¬ route.trailing = true) : route.allSteps = route.steps.dropLast ++ [last] := by
  obtain ⟨before, split⟩ := List.getLast?_eq_some_iff.mp steps
  rw [Route.allSteps, if_neg plain, split, List.dropLast_concat]

section Target

variable {links : Nat} {here place : Location} {route : Route}
  (led : files.writeTarget links here route = .ok place)

include led

theorem writeTarget_below : place ≠ [] := by
  fun_induction writeTarget files links here route with
  | case9 =>
      rename_i ih
      exact ih led
  | case12 | case13 =>
      cases led
      exact List.concat_ne_nil _ _
  | _ => contradiction

/-- Where something stands already, a path is opened at the place that it leads to. -/
theorem walk_of_writeTarget (standing : files.node? place ≠ none) :
    ∃ left, files.walk links (route.start here) route.allSteps = .ok (place, left) := by
  fun_induction writeTarget files links here route with
  | case9 links here route parent inside name plain short target link left onWay last _ ih =>
      obtain ⟨rest, led⟩ := ih led
      refine ⟨rest, ?_⟩
      rw [allSteps_of_last last plain, walk_append, onWay]
      exact (walk_link inside short link left).trans led
  | case12 =>
      cases led
      contradiction
  | case13 links here route parent left onWay inside name plain short node direct _ stands last =>
      cases led
      refine ⟨left, ?_⟩
      rw [allSteps_of_last last plain, walk_append, onWay]
      exact walk_down inside short stands direct left
  | _ => contradiction

end Target

/-- A name in a directory is opened there, unless a link or a directory has it. -/
theorem writeTarget_of_name {links left : Nat} {here parent : Location} {route : Route}
    {onWay : List Step} {name : String} (last : route.steps = onWay ++ [.down name])
    (plain : route.trailing = false)
    (walked : files.walk links (route.start here) onWay = .ok (parent, left))
    (inside : files.node? parent = some .directory)
    (short : ¬ files.limits.nameBytes < name.utf8ByteSize)
    (ready :
      match files.node? (parent ++ [name]) with
      | none => isKept parent = false
      | some (.link _) | some .directory => False
      | some _ => True) :
    files.writeTarget links here route = .ok (parent ++ [name]) := by
  have way : route.steps.dropLast = onWay := by rw [last, List.dropLast_concat]
  have ends : route.steps.getLast? = some (.down name) := by rw [last, List.getLast?_concat]
  fun_cases writeTarget files links here route <;> simp_all
  omega

theorem locate_of_walk {here place : Location} {path : Path} {left : Nat}
    (spelled : checkPath path = .ok ()) (short : files.checkLength path = .ok ())
    (walked : files.walk files.limits.links ((Route.ofPath path).start here)
      (Route.ofPath path).allSteps = .ok (place, left)) :
    files.locate here path = .ok place := by
  simp [locate, spelled, short, walked, bind, Except.bind, pure, Except.pure]

/-- A place that a path names: the path leads there or, if nothing stands there, a file of that path
would be made there. -/
structure Names (files : FileSystem) (here : Location) (path : Path) (place : Location) : Prop where
  target : files.writeTarget files.limits.links here (Route.ofPath path) = .ok place
  standing : files.node? place ≠ none → files.locate here path = .ok place

theorem Names.below {here place : Location} {path : Path} (named : files.Names here path place) :
    place ≠ [] :=
  writeTarget_below named.target

/-! ## Opening -/

section Opening

variable {here : Location} {path : Path} {append : Bool}

theorem openForWriting_of_target {place : Location} (spelled : checkPath path = .ok ())
    (short : files.checkLength path = .ok ())
    (target : files.writeTarget files.limits.links here (Route.ofPath path) = .ok place) :
    files.openForWriting here path append =
      match files.node? place with
      | none => .ok ({ location := place, append }, files.put place (.opened append none))
      | some (.file mode bytes) =>
          .ok ({ location := place, append },
            if append then files else files.put place (.opened append (some (.file mode bytes))))
      | some .directory => .error (.system .isDirectory)
      | some (.device .terminal) => .error (.system .noAddress)
      | some .interpreter => .error (.system .textBusy)
      | some (.device _) | some (.link _) => .ok ({ location := place, append }, files) := by
  simp only [openForWriting, openAt, spelled, short, target, bind, Except.bind, pure, Except.pure]
  cases append <;>
    simp only [Opening.extend, Opening.truncate, Bool.false_and, Bool.false_eq_true, if_true, if_false]
  all_goals
    cases files.node? place with
    | none => rfl
    | some node =>
        cases node with
        | device device => cases device <;> rfl
        | _ => rfl

section Opened

variable {file : OpenFile} {after : FileSystem}
  (opened : files.openForWriting here path append = .ok (file, after))

include opened

theorem openForWriting_target :
    checkPath path = .ok () ∧ files.checkLength path = .ok () ∧
      files.writeTarget files.limits.links here (Route.ofPath path) = .ok file.location := by
  have creates : (if append then Opening.extend else Opening.truncate).creates = true := by
    cases append <;> rfl
  have present : (if append then Opening.extend else Opening.truncate).isNew = false := by
    cases append <;> rfl
  cases spelled : checkPath path with
  | error cause => simp [openForWriting, openAt, bind, Except.bind, spelled] at opened
  | ok _ =>
      cases short : files.checkLength path with
      | error cause => simp [openForWriting, openAt, bind, Except.bind, spelled, short] at opened
      | ok _ =>
          cases target : files.writeTarget files.limits.links here (Route.ofPath path) with
          | error errno =>
              simp [openForWriting, openAt, bind, Except.bind, spelled, short, target, creates,
                present, throw, throwThe, MonadExceptOf.throw] at opened
          | ok place =>
              refine ⟨rfl, rfl, congrArg Except.ok ?_⟩
              rw [openForWriting_of_target spelled short target] at opened
              split at opened <;> cases opened <;> rfl

theorem openForWriting_names : files.Names here path file.location := by
  obtain ⟨spelled, short, target⟩ := openForWriting_target opened
  refine ⟨target, fun standing => ?_⟩
  obtain ⟨left, led⟩ := walk_of_writeTarget target standing
  exact locate_of_walk spelled short led

/-- Either the place was ready to be written to, or now it is. -/
theorem openForWriting_files :
    file = { location := file.location, append } ∧
      (after = files ∧ files.node? file.location = some (.opened append (files.node? file.location)) ∨
        after = files.put file.location (.opened append (files.node? file.location))) := by
  obtain ⟨spelled, short, target⟩ := openForWriting_target opened
  rw [openForWriting_of_target spelled short target] at opened
  split at opened
  · next free =>
      obtain ⟨same, made⟩ := Prod.mk.inj (Except.ok.inj opened)
      exact ⟨same.symm, .inr (by rw [free, made])⟩
  · next mode bytes standing =>
      obtain ⟨same, left⟩ := Prod.mk.inj (Except.ok.inj opened)
      refine ⟨same.symm, ?_⟩
      cases append with
      | false => exact .inr (by rw [standing]; exact left.symm)
      | true => exact .inl ⟨left.symm, by rw [standing]; rfl⟩
  · contradiction
  · contradiction
  · contradiction
  · next standing =>
      obtain ⟨same, left⟩ := Prod.mk.inj (Except.ok.inj opened)
      exact ⟨same.symm, .inl ⟨left.symm, by rw [standing]; rfl⟩⟩
  · next standing =>
      obtain ⟨same, left⟩ := Prod.mk.inj (Except.ok.inj opened)
      exact ⟨same.symm, .inl ⟨left.symm, by rw [standing]; rfl⟩⟩

theorem openForWriting_node? (other : Location) :
    after.node? other =
      if other = file.location then some (.opened append (files.node? file.location))
      else files.node? other := by
  obtain ⟨-, ⟨rfl, ready⟩ | rfl⟩ := openForWriting_files opened
  · by_cases same : other = file.location
    · rw [if_pos same, same]
      exact ready
    · rw [if_neg same]
  · exact files.node?_put _ _ _ (openForWriting_names opened).below

theorem openForWriting_descriptors : after.descriptors = files.descriptors := by
  obtain ⟨-, ⟨rfl, -⟩ | rfl⟩ := openForWriting_files opened <;> rfl

end Opened

end Opening

/-! ## Writing -/

theorem write_files {file written : OpenFile} {bytes : Bytes} {after : FileSystem}
    (done : files.write file bytes = .ok (written, after)) :
    after = files ∨ file.location ≠ [] ∧ ∃ node, after = files.put file.location node := by
  unfold write at done
  split at done
  · next mode old standing =>
      cases done
      refine .inr ⟨?_, _, rfl⟩
      intro root
      simp [root, node?] at standing
  · split at done
    · cases done
      exact .inl rfl
    · contradiction
  · cases done
    exact .inl rfl

end FileSystem

namespace Bytes

theorem overwrite_at_end (old new : Bytes) : old.overwrite old.length new = old ++ new := by
  simp [overwrite]

theorem overwrite_nothing (new : Bytes) : overwrite [] 0 new = new := by
  simp [overwrite]

end Bytes

end LineShell
