import LineShell.Proofs.FileSystem.Joining
import LineShell.Proofs.Session.Operands
import LineShell.Proofs.Session.Returning
/-!
Going to a directory in one step or in two. To go to one directory and from there to another is to go to the
second by the path of both, links and all; and where the second cannot be gone to, neither way can.
-/

namespace LineShell

/-! ## What comes of going somewhere -/

/-- Why a directory cannot be gone to. -/
inductive Obstacle
  | missing
  | notADirectory
  | system (cause : IoError)
deriving DecidableEq, Repr

/-- What is told of an obstacle on the way to what a user has named. -/
def Obstacle.failure (obstacle : Obstacle) (shown : String) : Failure :=
  match obstacle with
  | missing => .noSuchDirectory shown
  | notADirectory => .notADirectory shown
  | system cause => .changeDirectory shown cause

variable {Memory : Type}

namespace Session

/-- The directory that a path leads to. -/
def directory (session : Session Memory) (path : Path) : Except Obstacle Location :=
  match session.system.canonicalize path with
  | .error cause => .error (if cause = .system .noEntry then .missing else .system cause)
  | .ok location =>
      if session.system.files.isDirectory location then .ok location else .error .notADirectory

/-- The directory that an operand names, seen from the current one. -/
def destination (session : Session Memory) (operand : String) : Except Obstacle Location :=
  session.directory (session.environment.currentDir.join ⟨operand⟩)

theorem cdLocation_eq (session : Session Memory) (operand : String) :
    session.cdLocation operand ⟨operand⟩ = (session.destination operand).mapError (·.failure operand) := by
  unfold cdLocation destination directory
  cases session.system.canonicalize (session.environment.currentDir.join ⟨operand⟩) with
  | error cause =>
      by_cases absent : cause = .system .noEntry <;> simp [absent, Except.mapError, Obstacle.failure]
  | ok location =>
      by_cases directory : session.system.files.isDirectory location = true <;>
        simp [directory, Except.mapError, Obstacle.failure]

theorem destination_eq_ok_iff (session : Session Memory) (operand : String) (location : Location) :
    session.destination operand = .ok location ↔
      session.system.canonicalize (session.environment.currentDir.join ⟨operand⟩) = .ok location ∧
        session.system.files.isDirectory location = true := by
  rw [← session.cdLocation_eq_ok_iff operand, cdLocation_eq]
  cases session.destination operand <;> simp [Except.mapError]

/-- What comes of going to where an operand leads: the session is there, or an obstacle is told. -/
def Went (before : Session Memory) (operand : String) (result : Except IoError Outcome)
    (after : Environment) : Prop :=
  match before.destination operand with
  | .error obstacle => result = .ok (.failed (obstacle.failure operand)) ∧ after = before.environment
  | .ok location => result = .ok .success ∧ after = before.environment.movedTo location.path

theorem Went.arrived {before : Session Memory} {operand : String} {result : Except IoError Outcome}
    {after : Environment} (went : before.Went operand result after) {location : Location}
    (led : before.destination operand = .ok location) :
    result = .ok .success ∧ after = before.environment.movedTo location.path := by
  rw [Went, led] at went
  exact went

theorem Went.stopped {before : Session Memory} {operand : String} {result : Except IoError Outcome}
    {after : Environment} (went : before.Went operand result after) {obstacle : Obstacle}
    (stuck : before.destination operand = .error obstacle) :
    result = .ok (.failed (obstacle.failure operand)) ∧ after = before.environment := by
  rw [Went, stuck] at went
  exact went

theorem Went.congr {before earlier : Session Memory} {operand : String}
    {result : Except IoError Outcome} {after : Environment} (went : before.Went operand result after)
    (same : before.environment = earlier.environment ∧ before.world = earlier.world) :
    earlier.Went operand result after := by
  have system : before.system = earlier.system := congrArg World.system same.2
  have destination : before.destination operand = earlier.destination operand := by
    rw [Session.destination, directory, same.1, system, Session.destination, directory]
  unfold Went at went ⊢
  rw [← destination, ← same.1]
  exact went

variable {host : Host Memory}

theorem cd_of_destination (agreeable : host.Agreeable) (session : Session Memory)
    {operands : List String} {operand : String} (first : operands.head? = some operand)
    (named : operand ≠ "~") :
    session.cd host operands =
      match session.destination operand with
      | .error obstacle => (.error (obstacle.failure operand), session)
      | .ok location =>
          let world := (host.changeDir location.path session.world).2
          (.ok {}, { session with environment := session.environment.movedTo location.path, world }) := by
  have aimed : cdTarget session.environment [operand] = .ok (operand, ⟨operand⟩) := by
    simp [cdTarget]
  rw [cd_congr host session (show operands.head? = [operand].head? from first), cd, aimed]
  dsimp only
  rw [cdLocation_eq]
  cases session.destination operand with
  | error obstacle => rfl
  | ok location =>
      have agreed := agreeable location.path session.world
      cases answered : host.changeDir location.path session.world with
      | mk answer world =>
          rw [answered] at agreed
          cases agreed
          simp only [Except.mapError, answered]
          rfl

theorem runBuiltin_cd_went (agreeable : host.Agreeable) (session : Session Memory)
    {operands : List String} {operand : String} (first : operands.head? = some operand)
    (named : operand ≠ "~") (sink : Sink) :
    session.Went operand (session.runBuiltin host .cd operands sink).result
      (session.runBuiltin host .cd operands sink).session.environment := by
  have gone := cd_of_destination agreeable session first named
  simp only [Went, runBuiltin, perform, gone]
  cases session.destination operand with
  | error obstacle => exact ⟨rfl, rfl⟩
  | ok location =>
      simp only [deliver_nothing (show Builtin.cd ≠ .echo by decide), and_self]

theorem executeLine_went (agreeable : host.Agreeable) (session : Session Memory) {line operand : String}
    {others : List String} {redirect : Option Redirection}
    (cut : CommandLine.ofWords (Words.ofLine (trimmed line)) = .ok ⟨"cd" :: operand :: others, redirect⟩)
    (named : operand ≠ "~") (sink : Sink) :
    session.Went operand (session.executeLine host line sink).result
      (session.executeLine host line sink).session.environment := by
  rw [session.executeLine_of_builtin host sink (show Builtin.cd ≠ .echo by decide) cut]
  exact runBuiltin_cd_went agreeable session rfl named sink

end Session

/-- A call that has `cd` go to what an operand names. -/
def Call.GoesTo (operand : String) : Call → Prop
  | .execute line _ | .enter line _ =>
      ∃ others redirect,
        CommandLine.ofWords (Words.ofLine (trimmed line)) = .ok ⟨"cd" :: operand :: others, redirect⟩
  | .dispatch command _ _ => command.kind = .builtin .cd ∧ command.arguments.head? = some operand

theorem Call.answer_went {host : Host Memory} (agreeable : host.Agreeable) (session : Session Memory)
    {call : Call} {operand : String} (goes : call.GoesTo operand) (named : operand ≠ "~") :
    session.Went operand (call.answer host session).1 (call.answer host session).2.environment := by
  cases call with simp only [Call.answer]
  | execute line sink =>
      obtain ⟨others, redirect, cut⟩ := goes
      exact Session.executeLine_went agreeable session cut named sink
  | enter line stdout =>
      obtain ⟨others, redirect, cut⟩ := goes
      obtain ⟨result, same⟩ := session.enterLine_sameButSystem host line stdout
      have went := Session.executeLine_went agreeable (session.remember line) cut named stdout
      rw [result, same.environment]
      exact went.congr (session.remember_sameButHistory line)
  | dispatch command redirect sink =>
      obtain ⟨kind, first⟩ := goes
      rw [Session.dispatch_builtin host redirect sink kind (by decide)]
      exact Session.runBuiltin_cd_went agreeable session first named sink

theorem Session.enterLine_view (host : Host Memory) (session : Session Memory) (line : String)
    (stdout : Sink) :
    (session.enterLine host line stdout).2.system.view =
      ((session.remember line).executeLine host line stdout).session.system.view := by
  simp only [enterLine]
  generalize (session.remember line).executeLine host line stdout = turn
  cases turn.result with
  | error cause => rfl
  | ok outcome =>
      dsimp only [complain]
      split <;> rfl

theorem Call.answer_view {host : Host Memory} (moves : host.OnlyMoves) (session : Session Memory)
    {call : Call} {operand : String} (goes : call.GoesTo operand) :
    (call.answer host session).2.system.view = session.system.view := by
  have runs (before : Session Memory) (operands : List String) (sink : Sink) :
      (before.runBuiltin host .cd operands sink).session.system.view = before.system.view :=
    Session.runBuiltin_view sink moves .cd operands
  cases call with simp only [Call.answer]
  | execute line sink =>
      obtain ⟨others, redirect, cut⟩ := goes
      rw [session.executeLine_of_builtin host sink (show Builtin.cd ≠ .echo by decide) cut, runs]
  | enter line stdout =>
      obtain ⟨others, redirect, cut⟩ := goes
      obtain ⟨-, world⟩ := session.remember_sameButHistory line
      rw [session.enterLine_view, (session.remember line).executeLine_of_builtin host stdout
        (show Builtin.cd ≠ .echo by decide) cut, runs, Session.system, world]
      rfl
  | dispatch command redirect sink =>
      rw [Session.dispatch_builtin host redirect sink goes.1 (by decide), runs]

/-! ## One step and two -/

/-- No bound on paths is met on a path, seen from the working directory. -/
def System.Unhindered (system : System) (path : Path) : Prop :=
  system.view.Unhindered system.workingDir path

namespace Session

/-- Where two paths lead to one place among the same files, they lead to one directory. -/
theorem directory_congr {session later : Session Memory} (view : later.system.view = session.system.view)
    {path other : Path} (absolute : other.isAbsolute = true)
    (same : session.system.canonicalize path = later.system.canonicalize other) :
    session.directory path = later.directory other := by
  unfold directory
  rw [same]
  cases found : later.system.canonicalize other with
  | error cause => rfl
  | ok location =>
      have settled := FileSystem.canonicalize_settled absolute found
      have alike : session.system.files.isDirectory location = true ↔
          later.system.files.isDirectory location = true := by
        constructor
        · intro folder
          exact System.isDirectory_of_view (view ▸ System.view_of_isDirectory (view ▸ settled) folder)
        · intro folder
          exact System.isDirectory_of_view (view ▸ System.view_of_isDirectory settled folder)
      simp only [alike]

/-- From the directory that one operand has led to, another leads to where both lead together. -/
theorem destination_below {session middle : Session Memory} (sound : session.system.Sound)
    {a b : String} {location : Location} (led : session.destination a = .ok location)
    (view : middle.system.view = session.system.view)
    (here : middle.environment.currentDir = location.path) (named : a ≠ "") (filled : b ≠ "")
    (relative : (⟨b⟩ : Path).isAbsolute = false)
    (whole : session.system.Unhindered (session.environment.currentDir.join ⟨a ++ "/" ++ b⟩))
    (onward : middle.system.Unhindered (middle.environment.currentDir.join ⟨b⟩)) :
    session.destination (a ++ "/" ++ b) = middle.destination b := by
  obtain ⟨found, folder⟩ := (session.destination_eq_ok_iff a location).mp led
  have reached := sound.reached found
  have standing := System.view_of_isDirectory reached.toSettled folder
  have joined : session.environment.currentDir.join ⟨a ++ "/" ++ b⟩ =
      (session.environment.currentDir.join ⟨a⟩).below b :=
    Path.join_below session.environment.currentDir (show (⟨a⟩ : Path).text ≠ "" from named) b
  rw [joined] at whole
  unfold destination
  rw [joined]
  refine directory_congr view ?_ ?_
  · rw [here]
    exact Path.isAbsolute_join location.isAbsolute_path ⟨b⟩
  · rw [here] at onward ⊢
    unfold System.Unhindered at onward
    rw [view] at onward
    rw [System.canonicalize, System.canonicalize, view]
    exact FileSystem.canonicalize_below found reached standing relative filled whole onward

end Session

/-- To go to a directory and on from there is to go there at once, where a host goes wherever it is asked to
and changes no files. The first operand may be anything that leads to a directory, through links or not, and
the second anything that is seen from there. Both ways end in the same directory, or both are stopped by the
same obstacle: the one where the first step led to, the other where it started. Only where a bound on
paths is met could the ways differ. -/
theorem goes_stepwise {host : Host Memory} (agreeable : host.Agreeable) (moves : host.OnlyMoves)
    {session : Session Memory} (sound : session.system.Sound) {a b : String}
    (named : a ≠ "" ∧ b ≠ "") (notHome : a ≠ "~" ∧ b ≠ "~") (relative : (⟨b⟩ : Path).isAbsolute = false)
    {first second single : Call} (goesFirst : first.GoesTo a) (goesSecond : second.GoesTo b)
    (goesSingle : single.GoesTo (a ++ "/" ++ b)) (succeeded : (first.event host session).Succeeded) :
    let middle := (first.answer host session).2
    let last := second.answer host middle
    let alone := single.answer host session
    session.system.Unhindered (session.environment.currentDir.join ⟨a ++ "/" ++ b⟩) →
    middle.system.Unhindered (middle.environment.currentDir.join ⟨b⟩) →
    (∃ dir : Path, last.1 = .ok .success ∧ alone.1 = .ok .success ∧
      last.2.environment.currentDir = dir ∧ alone.2.environment.currentDir = dir ∧
      last.2.environment.get? "PWD" = some dir.text ∧
      alone.2.environment.get? "PWD" = some dir.text) ∨
    ∃ obstacle : Obstacle,
      last.1 = .ok (.failed (obstacle.failure b)) ∧
      alone.1 = .ok (.failed (obstacle.failure (a ++ "/" ++ b))) ∧
      last.2.environment = middle.environment ∧ alone.2.environment = session.environment := by
  intro middle last alone whole onward
  have went := Call.answer_went agreeable session goesFirst notHome.1
  have further := Call.answer_went agreeable middle goesSecond notHome.2
  have separated : a ++ "/" ++ b ≠ "~" := by
    intro home
    have inside : '/' ∈ (a ++ "/" ++ b).toList := by simp
    rw [home] at inside
    exact absurd inside (by decide)
  have direct := Call.answer_went agreeable session goesSingle separated
  cases led : session.destination a with
  | error obstacle =>
      unfold Event.Succeeded at succeeded
      rw [show (first.event host session).result = _ from (went.stopped led).1] at succeeded
      exact absurd succeeded (show (1 : Int) ≠ 0 by decide)
  | ok location =>
      have here : middle.environment.currentDir = location.path :=
        congrArg Environment.currentDir (went.arrived led).2
      have same := Session.destination_below sound led (Call.answer_view moves session goesFirst) here
        named.1 named.2 relative whole onward
      cases ends : middle.destination b with
      | error obstacle =>
          obtain ⟨failed, left⟩ := further.stopped ends
          obtain ⟨failedAlone, leftAlone⟩ := direct.stopped (same.trans ends)
          exact .inr ⟨obstacle, failed, failedAlone, left, leftAlone⟩
      | ok place =>
          obtain ⟨done, moved⟩ := further.arrived ends
          obtain ⟨doneAlone, movedAlone⟩ := direct.arrived (same.trans ends)
          have told (before : Environment) : (before.movedTo place.path).get? "PWD" = some place.path.text :=
            (before.get?_movedTo place.path "PWD").trans (if_pos rfl)
          refine .inl ⟨place.path, done, doneAlone, congrArg Environment.currentDir moved,
            congrArg Environment.currentDir movedAlone, ?_, ?_⟩
          · exact (congrArg (·.get? "PWD") moved).trans (told middle.environment)
          · exact (congrArg (·.get? "PWD") movedAlone).trans (told session.environment)

theorem goes_stepwise_link :
    let host := Host.scripted {}
    let session : Session Unit :=
      { environment := { «variables» := [], currentDir := ⟨"/"⟩ }
        world :=
          { memory := ()
            system :=
              { files :=
                  { entries :=
                      [(["lib"], .directory), (["lib", "v2"], .directory),
                        (["now"], .link ⟨"lib/v2"⟩)] } } } }
    let first : Call := .dispatch ⟨.builtin .cd, "cd", ["now"]⟩ none {}
    let second : Call := .execute "cd .." {}
    let single : Call := .enter "cd now/.. ignored" {}
    let middle := (first.answer host session).2
    let last := second.answer host middle
    let alone := single.answer host session
    middle.environment.currentDir = ⟨"/lib/v2"⟩ ∧
      last.1 = .ok .success ∧ last.2.environment.currentDir = ⟨"/lib"⟩ ∧
      alone.1 = .ok .success ∧ alone.2.environment.currentDir = ⟨"/lib"⟩ := by
  intro host session first second single middle last alone
  let files := session.system.view
  have agreeable : host.Agreeable := Host.scripted_agreeable rfl
  have moves : host.OnlyMoves := Host.scripted_onlyMoves {}
  have inLib : files.Descends [] "lib" .directory :=
    ⟨rfl, rfl, nofun, nofun, by decide, by decide⟩
  have inV2 : files.Descends ["lib"] "v2" .directory :=
    ⟨rfl, rfl, nofun, nofun, by decide, by decide⟩
  have along (links : Nat) (rest : List Step) :
      files.canonicalWalk links [] (.down "lib" :: .down "v2" :: rest) =
        files.canonicalWalk links ["lib", "v2"] rest := by
    rw [FileSystem.canonicalWalk_of_descends inLib fun _ => ⟨rfl, by decide⟩]
    exact FileSystem.canonicalWalk_of_descends inV2 fun _ => ⟨rfl, by decide⟩
  have through (rest : List Step) :
      files.canonicalWalk 40 [] (.down "now" :: rest) = files.canonicalWalk 39 ["lib", "v2"] rest := by
    have link : files.node? ([] ++ ["now"]) = some (.link ⟨"lib/v2"⟩) := rfl
    rw [FileSystem.canonicalWalk_of_link (by decide) rfl (by decide) link rest]
    exact along 39 rest
  have stay (links : Nat) : files.canonicalWalk links ["lib", "v2"] [] = .ok ["lib", "v2"] :=
    FileSystem.canonicalWalk_stays nofun
  have back (links : Nat) : files.canonicalWalk links ["lib", "v2"] [.up] = .ok ["lib"] := by
    rw [FileSystem.canonicalWalk]
    exact FileSystem.canonicalWalk_stays nofun
  have now : files.canonicalize [] ⟨"/now"⟩ = .ok ["lib", "v2"] :=
    FileSystem.canonicalize_of_walk rfl rfl ((through []).trans (stay 39))
  have whole : files.canonicalize [] ⟨"/now/.."⟩ = .ok ["lib"] :=
    FileSystem.canonicalize_of_walk rfl rfl ((through [.up]).trans (back 39))
  have onward (here : Location) : files.canonicalize here ⟨"/lib/v2/.."⟩ = .ok ["lib"] :=
    FileSystem.canonicalize_of_walk rfl rfl ((along 40 [.up]).trans (back 40))
  have sound : session.system.Sound := by
    refine .atRoot (FileSystem.unspoiled_of_entries rfl ?_) rfl
    simp [session, Session.system]
  have room : files.isOutOfReach ["lib"] FileSystem.directoryMark.utf8ByteSize = false := by decide
  have seenNow : session.environment.currentDir.join ⟨"now"⟩ = ⟨"/now"⟩ := by decide
  have seenWhole : session.environment.currentDir.join ⟨"now" ++ "/" ++ ".."⟩ = ⟨"/now/.."⟩ := by decide
  have led : session.destination "now" = .ok ["lib", "v2"] := by
    rw [Session.destination_eq_ok_iff, seenNow]
    exact ⟨now, rfl⟩
  have ends : session.destination ("now" ++ "/" ++ "..") = .ok ["lib"] := by
    rw [Session.destination_eq_ok_iff, seenWhole]
    exact ⟨whole, rfl⟩
  have goesFirst : first.GoesTo "now" := ⟨rfl, rfl⟩
  have goesSecond : second.GoesTo ".." := ⟨[], none, rfl⟩
  have goesSingle : single.GoesTo ("now" ++ "/" ++ "..") := ⟨["ignored"], none, rfl⟩
  obtain ⟨done, moved⟩ := (Call.answer_went agreeable session goesFirst (by decide)).arrived led
  obtain ⟨doneAlone, movedAlone⟩ := (Call.answer_went agreeable session goesSingle (by decide)).arrived ends
  have textMiddle : Location.path ["lib", "v2"] = ⟨"/lib/v2"⟩ := by decide
  have text : Location.path ["lib"] = ⟨"/lib"⟩ := by decide
  have here := (congrArg Environment.currentDir moved).trans textMiddle
  have there := (congrArg Environment.currentDir movedAlone).trans text
  have free : session.system.Unhindered (session.environment.currentDir.join ⟨"now" ++ "/" ++ ".."⟩) := by
    rw [seenWhole]
    exact FileSystem.unhindered_of_found whole rfl room
  have freeOnward : (first.answer host session).2.system.Unhindered
      ((first.answer host session).2.environment.currentDir.join ⟨".."⟩) := by
    rw [here, System.Unhindered, Call.answer_view moves session goesFirst]
    exact FileSystem.unhindered_of_found (onward _) rfl room
  have succeeded : (first.event host session).Succeeded := Call.dispatch_succeeded done
  have composed := goes_stepwise agreeable moves sound (show "now" ≠ "" ∧ ".." ≠ "" by decide) (by decide)
    (by decide) goesFirst goesSecond goesSingle succeeded free freeOnward
  obtain ⟨dir, arrives, -, last', alone', -, -⟩ | ⟨obstacle, -, failed, -, -⟩ := composed
  · have back := last'.trans (alone'.symm.trans there)
    -- The sessions are the same but for their names. To unfold more than these would run the lines.
    with_reducible exact ⟨here, arrives, back, doneAlone, there⟩
  · have status := congrArg Outcome.status (Except.ok.inj (doneAlone.symm.trans failed))
    exact absurd status (show (0 : Int) ≠ 1 by decide)

end LineShell
