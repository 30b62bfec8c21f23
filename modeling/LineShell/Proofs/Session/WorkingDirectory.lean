import LineShell.Host.Native
import LineShell.Proofs.FileSystem.Standing
import LineShell.Proofs.Lookup
import LineShell.Proofs.Session.Frame
/-!
The directory that the shell works in and the one that it believes to be in. They are the same through
calls of any number, so a program is looked up where the process that runs it will start.
-/

namespace LineShell

/-! ## Hosts -/

/-- A host that keeps to what is known of processes: to change the directory makes it the working
directory or, where that fails, leaves that alone; and so does a program that runs. -/
structure Host.Grounded {Memory : Type} (host : Host Memory) : Prop where
  moves : ∀ {dir world after}, host.changeDir dir world = (.ok (), after) →
    world.system.directoryAt dir = .ok after.system.workingDir ∧ after.system.view = world.system.view
  stays : ∀ {dir world cause after}, host.changeDir dir world = (.error cause, after) →
    after.system.workingDir = world.system.workingDir
  parent : ∀ invocation world,
    (host.run invocation world).2.system.workingDir = world.system.workingDir

theorem Invocation.run_workingDir {invocation : Invocation} {system after : System} {status : ExitCode}
    (ran : invocation.run system = .ok (status, after)) : after.workingDir = system.workingDir := by
  unfold Invocation.run at ran
  split at ran
  · cases ran
  · cases place : system.directoryAt invocation.environment.currentDir with
    | error cause => simp [place, bind, Except.bind] at ran
    | ok workingDir =>
        simp only [place, bind, Except.bind, pure, Except.pure] at ran
        split at ran
        · cases ran
        · cases ran
          rfl

theorem Host.native_grounded : Host.native.Grounded where
  moves := by
    intro dir world after moved
    simp only [native] at moved
    split at moved
    · cases moved
    · next workingDir found =>
        cases moved
        exact ⟨found, rfl⟩
  stays := by
    intro dir world cause after failed
    simp only [native] at failed
    split at failed
    · cases failed
      rfl
    · cases failed
  parent := by
    intro invocation world
    simp only [native]
    split
    · rfl
    · next ran => exact Invocation.run_workingDir ran

namespace Session

variable {Memory : Type} {host : Host Memory} {session : Session Memory}

/-! ## Where calls lead -/

/-- A session in the same place: neither the working directory nor what is held for it has changed. -/
structure SamePlace (before after : Session Memory) : Prop where
  currentDir : after.environment.currentDir = before.environment.currentDir
  workingDir : after.system.workingDir = before.system.workingDir

theorem SamePlace.refl (session : Session Memory) : session.SamePlace session :=
  ⟨rfl, rfl⟩

theorem SamePlace.trans {first second third : Session Memory} (left : first.SamePlace second)
    (right : second.SamePlace third) : first.SamePlace third :=
  ⟨right.currentDir.trans left.currentDir, right.workingDir.trans left.workingDir⟩

theorem openRedirect_samePlace {redirect : Redirection} {file : OpenFile} {ready : Session Memory}
    (opened : session.openRedirect redirect = .ok (file, ready)) : session.SamePlace ready := by
  unfold openRedirect at opened
  split at opened
  · contradiction
  · next found =>
      cases opened
      exact ⟨rfl, System.openForWriting_workingDir found⟩

/-- All that a call can do to where a session is: nothing, or go to the canonical place of a path. -/
inductive Moves (before after : Session Memory) : Prop
  | stayed (same : before.SamePlace after)
  | gone {target : Path} {location : Location}
      (found : before.system.canonicalize (before.environment.currentDir.join target) = .ok location)
      (directory : before.system.files.isDirectory location = true)
      (led : before.system.directoryAt location.path = .ok after.system.workingDir)
      (currentDir : after.environment.currentDir = location.path)
      (view : after.system.view = before.system.view)

/-- Only the place, the files and what is held of them count for where a call has led. -/
theorem Moves.congr {before first after last : Session Memory} (moves : before.Moves after)
    (same : before.environment = first.environment ∧ before.world = first.world)
    (environment : last.environment = after.environment)
    (workingDir : last.system.workingDir = after.system.workingDir)
    (view : last.system.view = after.system.view) : first.Moves last := by
  obtain ⟨held, world⟩ := same
  have system : before.system = first.system := congrArg World.system world
  cases moves with
  | stayed same =>
      refine .stayed ⟨?_, ?_⟩
      · rw [environment, same.currentDir, held]
      · rw [workingDir, same.workingDir, system]
  | gone found directory led currentDir files =>
      rw [held, system] at found
      rw [system] at directory led files
      rw [← workingDir] at led
      exact .gone found directory led (by rw [environment, currentDir]) (view.trans files)

theorem perform_samePlace (session : Session Memory) {builtin : Builtin} (operands : List String)
    (still : builtin ≠ .cd) : session.SamePlace (session.perform host builtin operands).2 := by
  cases builtin <;> first | exact ⟨rfl, rfl⟩ | contradiction

theorem deliverToFile_workingDir (builtin : Builtin) (report : Report) (file : OpenFile)
    (system : System) :
    (builtin.deliverToFile report file system).2.workingDir = system.workingDir := by
  unfold Builtin.deliverToFile
  split
  · rfl
  · next done => exact System.write_workingDir done

theorem runBuiltinInto_samePlace (session : Session Memory) (redirect : Redirection) {builtin : Builtin}
    (operands : List String) (sink : Sink) (still : builtin ≠ .cd) :
    session.SamePlace (session.runBuiltinInto host redirect builtin operands sink).session := by
  unfold runBuiltinInto
  cases opened : session.openRedirect redirect with
  | error failure => exact .refl session
  | ok pair =>
      obtain ⟨file, ready⟩ := pair
      have first := openRedirect_samePlace opened
      have performed : ready.SamePlace (ready.perform host builtin operands).2 :=
        ready.perform_samePlace operands still
      dsimp only
      cases done : ready.perform host builtin operands with
      | mk answer after =>
          rw [done] at performed
          have second := first.trans performed
          cases answer with
          | error failure => exact second
          | ok report =>
              exact second.trans ⟨rfl, deliverToFile_workingDir builtin report file after.system⟩

section Running

variable (grounded : host.Grounded)

include grounded

theorem runProgram_samePlace (session : Session Memory) (program : Path) (arguments : List String)
    (output : Option OpenFile) (sink : Sink) :
    session.SamePlace (session.runProgram host program arguments output sink).session := by
  by_cases flushed : sink.flush = .ok ()
  · rw [runProgram_of_flushed host session program arguments output flushed]
    exact ⟨rfl, grounded.parent _ session.world⟩
  · obtain ⟨cause, stopped⟩ := runProgram_of_unflushed host session program arguments output flushed
    rw [stopped]
    exact .refl session

theorem cd_moves (session : Session Memory) (operands : List String) :
    session.Moves (session.cd host operands).2 := by
  obtain ⟨failure, stuck⟩ | ⟨location, leads, answer⟩ := session.cd_cases host operands
  · rw [stuck]
    exact .stayed (.refl session)
  · obtain ⟨target, -, found, directory⟩ := leads
    obtain ⟨world, answered, gone⟩ | ⟨cause, world, failure, answered, refused⟩ := answer
    · obtain ⟨led, view⟩ := grounded.moves answered
      rw [gone]
      exact .gone found directory led rfl view
    · rw [refused]
      exact .stayed ⟨rfl, grounded.stays answered⟩

theorem dispatch_moves (session : Session Memory) (command : Command) (redirect : Option Redirection)
    (sink : Sink) : session.Moves (session.dispatch host command redirect sink).session := by
  cases kind : command.kind with
  | notFound =>
      simp only [dispatch, kind, reportNotFound]
      split <;> exact .stayed (.refl session)
  | external program =>
      refine .stayed ?_
      simp only [dispatch, kind]
      cases redirect with
      | none => exact runProgram_samePlace grounded session program command.arguments none sink
      | some redirect =>
          dsimp only
          cases opened : session.openRedirect redirect with
          | error failure => exact .refl session
          | ok pair =>
              exact (openRedirect_samePlace opened).trans
                (runProgram_samePlace grounded pair.2 program command.arguments (some pair.1) sink)
  | builtin builtin =>
      by_cases still : builtin = .cd
      · subst still
        rw [dispatch_cd_session host redirect sink kind]
        exact cd_moves grounded session command.arguments
      · refine .stayed ?_
        simp only [dispatch, kind]
        cases redirect.filter fun _ => builtin.honorsRedirection with
        | none =>
            dsimp only
            rw [runBuiltin_session]
            exact session.perform_samePlace command.arguments still
        | some redirect => exact session.runBuiltinInto_samePlace redirect command.arguments sink still

theorem executeLine_moves (session : Session Memory) (line : String) (sink : Sink) :
    session.Moves (session.executeLine host line sink).session := by
  unfold executeLine
  cases session.understand line with
  | error missing => exact .stayed (.refl session)
  | ok asked =>
      obtain ⟨_ | command, redirect⟩ := asked
      · exact .stayed (.refl session)
      · exact dispatch_moves grounded session command redirect sink

theorem enterLine_moves (session : Session Memory) (line : String) (stdout : Sink) :
    session.Moves (session.enterLine host line stdout).2 := by
  have moves := executeLine_moves grounded (session.remember line) line stdout
  have before := session.remember_sameButHistory line
  simp only [enterLine]
  generalize (session.remember line).executeLine host line stdout = turn at moves
  cases turn.result with
  | error cause => exact moves.congr before rfl rfl rfl
  | ok outcome =>
      dsimp only
      unfold complain
      split <;> exact moves.congr before rfl rfl rfl

end Running

/-! ## Sessions that know where they are -/

/-- What the shell holds for its working directory is the path of that directory, which is there. -/
structure Placed (session : Session Memory) : Prop where
  currentDir : session.environment.currentDir = session.system.workingDir.path
  stands : session.system.Stands

theorem Placed.directoryAt (placed : session.Placed) :
    session.system.directoryAt session.environment.currentDir = .ok session.system.workingDir := by
  rw [placed.currentDir]
  exact placed.stands.directoryAt

theorem Placed.isAbsolute_join (placed : session.Placed) (target : Path) :
    (session.environment.currentDir.join target).isAbsolute = true := by
  rw [placed.currentDir]
  exact Path.isAbsolute_join session.system.workingDir.isAbsolute_path target

theorem Placed.moved {after : Session Memory} (placed : session.Placed) (moves : session.Moves after)
    (spares : session.system.Spares after.system) : after.Placed := by
  cases moves with
  | stayed same =>
      refine ⟨?_, placed.stands.spared spares same.workingDir⟩
      rw [same.currentDir, same.workingDir, placed.currentDir]
  | @gone target location found directory led currentDir view =>
      have canonical := System.canonical_of_canonicalize (placed.isAbsolute_join target) found directory
      obtain ⟨place, within⟩ := (System.directoryAt_path_iff canonical).mp led
      refine ⟨by rw [currentDir, place], ?_, ?_⟩
      · rw [place, view]
        exact canonical
      · rw [place, view]
        exact within

theorem openRedirect_spares {redirect : Redirection} {file : OpenFile} {ready : Session Memory}
    (opened : session.openRedirect redirect = .ok (file, ready)) :
    session.system.Spares ready.system := by
  unfold openRedirect at opened
  split at opened
  · contradiction
  · next found =>
      cases opened
      exact System.openForWriting_spares found

theorem leads_root (session : Session Memory) : session.Leads ["/"] [] := by
  have walked : session.system.view.canonicalWalk session.system.view.limits.links [] [.stay] =
      .ok [] := by
    rw [FileSystem.canonicalWalk, FileSystem.canonicalWalk]
  refine ⟨⟨"/"⟩, rfl, ?_, rfl⟩
  rw [Path.join_of_isAbsolute rfl]
  exact FileSystem.canonicalize_of_walk rfl rfl walked

/-- The native host goes to any directory whose path is within bounds. -/
theorem dispatch_cd_native {session : Session Unit}
    (absolute : session.environment.currentDir.isAbsolute = true) {command : Command}
    (kind : command.kind = .builtin .cd) {location : Location}
    (leads : session.Leads command.arguments location) (within : session.system.view.Within location)
    (redirect : Option Redirection) (sink : Sink) :
    session.dispatch Host.native command redirect sink =
      ⟨.ok .success,
        { session with
          environment := session.environment.movedTo location.path
          world := { session.world with system := { session.system with workingDir := location } } },
        sink⟩ := by
  have gone := dispatch_cd_of_leads Host.native redirect sink kind leads
  obtain ⟨target, -, found, directory⟩ := leads
  have canonical :=
    System.canonical_of_canonicalize (Path.isAbsolute_join absolute target) found directory
  have led : session.world.system.directoryAt location.path = .ok location :=
    (System.directoryAt_path_iff canonical).mpr ⟨rfl, within⟩
  have answered : Host.native.changeDir location.path session.world =
      (.ok (), { session.world with system := { session.world.system with workingDir := location } }) := by
    simp only [Host.native, led]
  rw [answered] at gone
  exact gone

end Session

/-- Through calls, nothing on the path of what is the working directory at the time is disturbed. -/
def Undisturbed {Memory : Type} (host : Host Memory) : List Call → Session Memory → Prop
  | [], _ => True
  | call :: rest, session =>
      session.system.Spares (call.answer host session).2.system ∧
        Undisturbed host rest (call.answer host session).2

section Playing

variable {Memory : Type} {host : Host Memory} (grounded : host.Grounded)

include grounded

theorem Call.answer_moves (call : Call) (session : Session Memory) :
    session.Moves (call.answer host session).2 := by
  cases call with simp only [Call.answer]
  | execute line sink => exact Session.executeLine_moves grounded session line sink
  | enter line stdout => exact Session.enterLine_moves grounded session line stdout
  | dispatch command redirect sink => exact Session.dispatch_moves grounded session command redirect sink

theorem play_placed {calls : List Call} {session : Session Memory} (placed : session.Placed)
    (undisturbed : Undisturbed host calls session) : (play host calls session).2.Placed := by
  induction calls generalizing session with
  | nil => exact placed
  | cons call rest ih =>
      obtain ⟨spares, later⟩ := undisturbed
      exact ih (placed.moved (call.answer_moves grounded session) spares) later

end Playing

/-- Where a host keeps to what is known of processes and the directories on the path of the working
directory are left alone, the shell is where it believes to be through calls of any number. A program that
a line stands for is given by a path with a separator in it. What was found executable there from the
working directory is what that path leads to from the current directory, in which the program starts; and
to open the file of a redirection before makes no difference to where that is. -/
theorem play_workingDir {Memory : Type} {host : Host Memory} (grounded : host.Grounded)
    {session : Session Memory} (placed : session.Placed) {calls : List Call}
    (undisturbed : Undisturbed host calls session) :
    let last := (play host calls session).2
    last.environment.currentDir = last.system.workingDir.path ∧
      last.system.directoryAt last.environment.currentDir = .ok last.system.workingDir ∧
      ∀ line command redirect program, last.understand line = .ok (some command, redirect) →
        command.kind = .external program →
        '/' ∈ program.text.toList ∧
          (∃ place node,
            last.system.view.locate last.system.workingDir program = .ok place ∧
            last.system.view.node? place = some node ∧ node.isExecutable = true ∧
            ∃ start, last.system.directoryAt last.environment.currentDir = .ok start ∧
              last.system.view.locate start program = .ok place) ∧
          ∀ target file ready, redirect = some target → last.openRedirect target = .ok (file, ready) →
            ready.environment.currentDir = last.environment.currentDir ∧
              ready.system.directoryAt ready.environment.currentDir = .ok last.system.workingDir := by
  intro last
  have here : last.Placed := play_placed grounded placed undisturbed
  refine ⟨here.currentDir, here.directoryAt, ?_⟩
  intro line command redirect program understood kind
  obtain ⟨argv, -, resolved⟩ := (Session.understand_eq_some_iff line command redirect).mp understood
  obtain ⟨-, meaning⟩ := (Session.resolve_eq_some_iff argv command).mp resolved
  have found := Command.found_of_kindOf (meaning.trans kind)
  obtain ⟨executable, separated⟩ := FileSystem.findCommand_eq_some found
  obtain ⟨place, node, located, standing, runs⟩ := FileSystem.isExecutable_iff.mp executable
  refine ⟨separated, ⟨place, node, located, standing, runs, _, here.directoryAt, located⟩, ?_⟩
  intro target file ready _ opened
  have same := Session.openRedirect_samePlace opened
  have there := here.moved (.stayed same) (Session.openRedirect_spares opened)
  exact ⟨same.currentDir, by rw [there.directoryAt, same.workingDir]⟩

theorem play_workingDir_home :
    let session : Session Unit :=
      { environment := { «variables» := [("PATH", ".")], currentDir := ⟨"/"⟩ }
        world :=
          { memory := ()
            system :=
              { files := { entries := [(["home"], .directory), (["home", "run"], .file 0o755 [])] } } } }
    let calls : List Call := [.dispatch ⟨.builtin .cd, "cd", ["home"]⟩ none {}]
    let last := (play Host.native calls session).2
    last.environment.currentDir = ⟨"/home"⟩ ∧
      ∃ start, last.system.directoryAt last.environment.currentDir = .ok start ∧
        last.system.view.locate start ⟨"./run"⟩ = .ok ["home", "run"] := by
  intro session calls last
  have top : Location.path [] = ⟨"/"⟩ := by decide
  have home : Location.path ["home"] = ⟨"/home"⟩ := by decide
  have placed : session.Placed := by
    refine ⟨top.symm, ⟨nofun, ?_⟩, ?_, ?_, nofun⟩
    · intro place above
      rw [List.prefix_nil.mp above]
      rfl
    · exact (congrArg FileSystem.checkPath top).trans rfl
    · exact (congrArg session.system.view.checkLength top).trans rfl
  let cd : Command := ⟨.builtin .cd, "cd", ["home"]⟩
  have leads : session.Leads cd.arguments ["home"] := by
    have seen : session.environment.currentDir.join ⟨"home"⟩ = ⟨"/home"⟩ := by decide
    have walked : session.system.view.canonicalWalk 40 [] [.down "home"] = .ok ["home"] :=
      FileSystem.canonicalWalk_down (by decide) rfl (by decide) rfl 40
    refine ⟨⟨"home"⟩, rfl, ?_, rfl⟩
    rw [seen]
    exact FileSystem.canonicalize_of_walk rfl rfl walked
  have within : session.system.view.Within ["home"] := by
    refine ⟨?_, ?_, by decide⟩
    · exact (congrArg FileSystem.checkPath home).trans rfl
    · exact (congrArg session.system.view.checkLength home).trans rfl
  let arrived : Session Unit :=
    { session with
      environment := session.environment.movedTo (Location.path ["home"])
      world := { session.world with system := { session.system with workingDir := ["home"] } } }
  have absolute : session.environment.currentDir.isAbsolute = true := by decide
  have played : last = arrived :=
    congrArg Turn.session
      (Session.dispatch_cd_native absolute (show cd.kind = _ from rfl) leads within none {})
  have undisturbed : Undisturbed Host.native calls session := by
    have left : (Call.answer Host.native (.dispatch cd none {}) session).2 = arrived := played
    refine ⟨?_, trivial⟩
    rw [left]
    exact .of_view rfl
  have located : arrived.system.view.locate ["home"] ⟨"./run"⟩ = .ok ["home", "run"] := by
    have walked : arrived.system.view.walk 40 ["home"] [.stay, .down "run"] =
        .ok (["home", "run"], 40) := by
      rw [FileSystem.walk]
      exact FileSystem.walk_down rfl (by decide) (show _ = some (.file 0o755 []) from rfl) (by simp) 40
    exact FileSystem.locate_of_walk rfl rfl walked
  have understood : arrived.understand "run" = .ok (some ⟨.external ⟨"./run"⟩, "run", []⟩, none) := by
    have executable : arrived.system.view.isExecutable arrived.system.workingDir ⟨"./run"⟩ = true :=
      FileSystem.isExecutable_iff.mpr ⟨_, _, located, rfl, rfl⟩
    have found : arrived.system.findCommand "." ⟨"/home"⟩ ⟨"run"⟩ = some ⟨"./run"⟩ := by
      have relative : ¬ (⟨"run"⟩ : Path).isAbsolute = true := by decide
      have parts : (⟨"run"⟩ : Path).components = [.named "run".toList] := by decide
      have name : (PathComponent.named "run".toList).text = "run" := by decide
      have places : SearchPath.directories "." = [⟨"."⟩] := by decide
      have joined : (⟨"."⟩ : Path).join ⟨"run"⟩ = ⟨"./run"⟩ := by decide
      simp only [System.findCommand, FileSystem.findCommand, if_neg relative, parts,
        FileSystem.searchFor, places, name, List.map_cons, List.map_nil, joined, List.find?_cons,
        executable]
    refine (Session.understand_eq_some_iff _ _ _).mpr ⟨["run"], rfl, ?_⟩
    exact (Session.resolve_eq_some_iff _ _).mpr ⟨rfl, Command.kindOf_of_found rfl found⟩
  obtain ⟨-, -, tells⟩ := play_workingDir Host.native_grounded placed undisturbed
  rw [show (play Host.native calls session).2 = arrived from played] at tells
  obtain ⟨-, ⟨place, node, there, -, -, start, led, read⟩, -⟩ := tells "run" _ _ _ understood rfl
  rw [played]
  refine ⟨home, start, led, ?_⟩
  rw [read, ← there]
  exact located

end LineShell
