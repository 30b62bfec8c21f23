import LineShell.Proofs.Session.Dispatch
/-!
Two sessions side by side. Where their environments and worlds are alike in all that the shell reads,
and their hosts answer alike, the same calls come to the same and leave them alike.
-/

namespace LineShell

variable {Left Right : Type}

/-- What makes environments and worlds alike, and that hosts keep them so. -/
structure Coupling (environments : Environment → Environment → Prop)
    (worlds : World Left → World Right → Prop) (left : Host Left) (right : Host Right) : Prop where
  currentDir {first second : Environment} (alike : environments first second) :
    first.currentDir = second.currentDir
  searchPath {first second : Environment} (alike : environments first second) :
    first.searchPath = second.searchPath
  home {first second : Environment} (alike : environments first second) : first.home = second.home
  movedTo {first second : Environment} (alike : environments first second) (dir : Path) :
    environments (first.movedTo dir) (second.movedTo dir)
  exited {first second : Environment} (alike : environments first second) :
    environments { first with shouldExit := true } { second with shouldExit := true }
  system {first : World Left} {second : World Right} (alike : worlds first second) :
    first.system = second.system
  withSystem {first : World Left} {second : World Right} (alike : worlds first second)
    (system : System) : worlds { first with system } { second with system }
  changeDir {first : World Left} {second : World Right} (alike : worlds first second) (dir : Path) :
    (left.changeDir dir first).1 = (right.changeDir dir second).1 ∧
      worlds (left.changeDir dir first).2 (right.changeDir dir second).2
  run {first : World Left} {second : World Right} (alike : worlds first second)
    {before after : Environment} (same : environments before after) (program : Path)
    (arguments : List String) (output : Option OpenFile) :
    (left.run ⟨program, arguments, before, output⟩ first).1 =
        (right.run ⟨program, arguments, after, output⟩ second).1 ∧
      worlds (left.run ⟨program, arguments, before, output⟩ first).2
        (right.run ⟨program, arguments, after, output⟩ second).2

/-- Sessions that nothing the shell does can tell apart. -/
structure Session.Alike (environments : Environment → Environment → Prop)
    (worlds : World Left → World Right → Prop) (first : Session Left) (second : Session Right) :
    Prop where
  environment : environments first.environment second.environment
  history : first.history = second.history
  world : worlds first.world second.world

structure Turn.Alike (environments : Environment → Environment → Prop)
    (worlds : World Left → World Right → Prop) (first : Turn Left) (second : Turn Right) : Prop where
  result : first.result = second.result
  session : first.session.Alike environments worlds second.session
  sink : first.sink = second.sink

namespace Coupling

/-- The two pairs that say the same, taken apart. -/
theorem split_of_alike {Answer First Second : Type} {alike : First → Second → Prop}
    {first : Answer × First} {second : Answer × Second}
    (same : first.1 = second.1 ∧ alike first.2 second.2) :
    ∃ answer before after, first = (answer, before) ∧ second = (answer, after) ∧
      alike before after := by
  obtain ⟨answer, before⟩ := first
  obtain ⟨answer', after⟩ := second
  obtain ⟨rfl, related⟩ := same
  exact ⟨answer, before, after, rfl, rfl, related⟩

variable {environments : Environment → Environment → Prop} {worlds : World Left → World Right → Prop}
  {left : Host Left} {right : Host Right} (coupling : Coupling environments worlds left right)
  {first : Session Left} {second : Session Right} (alike : first.Alike environments worlds second)

include coupling alike

theorem session_system : first.system = second.system :=
  coupling.system alike.world

theorem alike_withSystem (system : System) :
    (first.withSystem system).Alike environments worlds (second.withSystem system) :=
  ⟨alike.environment, alike.history, coupling.withSystem alike.world system⟩

theorem alike_exit : first.exit.Alike environments worlds second.exit :=
  ⟨coupling.exited alike.environment, alike.history, alike.world⟩

theorem kindOf_eq (name : String) :
    Command.kindOf first.system first.environment name =
      Command.kindOf second.system second.environment name := by
  rw [Command.kindOf, Command.kindOf, coupling.session_system alike,
    coupling.searchPath alike.environment, coupling.currentDir alike.environment]

theorem ofType_eq (names : List String) :
    Report.ofType first.system first.environment names =
      Report.ofType second.system second.environment names := by
  have told : Report.describe first.system first.environment =
      Report.describe second.system second.environment := by
    funext report name
    rw [Report.describe, Report.describe, coupling.session_system alike,
      coupling.searchPath alike.environment, coupling.currentDir alike.environment]
  rw [Report.ofType, Report.ofType, told]

theorem understand_eq (line : String) : first.understand line = second.understand line := by
  have resolved (argv : List String) : first.resolve argv = second.resolve argv := by
    cases argv with
    | nil => rfl
    | cons name arguments =>
        simp only [Session.resolve, Command.resolve, coupling.kindOf_eq alike]
  simp only [Session.understand, resolved]

theorem cdTarget_eq (operands : List String) :
    Session.cdTarget first.environment operands = Session.cdTarget second.environment operands := by
  simp only [Session.cdTarget, coupling.home alike.environment]

theorem cdLocation_eq (shown : String) (target : Path) :
    first.cdLocation shown target = second.cdLocation shown target := by
  unfold Session.cdLocation
  rw [coupling.session_system alike, coupling.currentDir alike.environment]

theorem cd_alike (operands : List String) :
    (first.cd left operands).1 = (second.cd right operands).1 ∧
      (first.cd left operands).2.Alike environments worlds (second.cd right operands).2 := by
  unfold Session.cd
  rw [coupling.cdTarget_eq alike]
  cases Session.cdTarget second.environment operands with
  | error failure => exact ⟨rfl, alike⟩
  | ok choice =>
      obtain ⟨shown, target⟩ := choice
      simp only [coupling.cdLocation_eq alike]
      cases second.cdLocation shown target with
      | error failure => exact ⟨rfl, alike⟩
      | ok location =>
          obtain ⟨answer, world, world', asked, asked', after⟩ :=
            split_of_alike (coupling.changeDir alike.world location.path)
          simp only [asked, asked']
          cases answer with
          | error cause => exact ⟨rfl, alike.environment, alike.history, after⟩
          | ok _ =>
              exact ⟨rfl, coupling.movedTo alike.environment location.path, alike.history, after⟩

theorem perform_alike (builtin : Builtin) (operands : List String) :
    (first.perform left builtin operands).1 = (second.perform right builtin operands).1 ∧
      (first.perform left builtin operands).2.Alike environments worlds
        (second.perform right builtin operands).2 := by
  cases builtin with
  | echo => exact ⟨rfl, alike⟩
  | cd => exact coupling.cd_alike alike operands
  | pwd =>
      exact ⟨by simp only [Session.perform, Report.ofPwd, coupling.currentDir alike.environment], alike⟩
  | exit => exact ⟨rfl, coupling.alike_exit alike⟩
  | type => exact ⟨coupling.ofType_eq alike operands, alike⟩
  | history => exact ⟨by simp only [Session.perform, alike.history], alike⟩

theorem openRedirect_alike (redirect : Redirection) :
    (∃ failure, first.openRedirect redirect = .error failure ∧
        second.openRedirect redirect = .error failure) ∨
      ∃ file opened opened', first.openRedirect redirect = .ok (file, opened) ∧
        second.openRedirect redirect = .ok (file, opened') ∧
        opened.Alike environments worlds opened' := by
  unfold Session.openRedirect
  rw [coupling.session_system alike, coupling.currentDir alike.environment]
  cases second.system.openForWriting (second.environment.currentDir.join redirect.target)
      redirect.append with
  | error cause => exact .inl ⟨_, rfl, rfl⟩
  | ok opened => exact .inr ⟨_, _, _, rfl, rfl, coupling.alike_withSystem alike opened.2⟩

theorem runBuiltin_alike (builtin : Builtin) (operands : List String) (sink : Sink) :
    (first.runBuiltin left builtin operands sink).Alike environments worlds
      (second.runBuiltin right builtin operands sink) := by
  obtain ⟨report, session, session', did, did', after⟩ :=
    split_of_alike (coupling.perform_alike alike builtin operands)
  simp only [Session.runBuiltin, did, did']
  cases report <;> exact ⟨rfl, after, rfl⟩

theorem runBuiltinInto_alike (redirect : Redirection) (builtin : Builtin) (operands : List String)
    (sink : Sink) :
    (first.runBuiltinInto left redirect builtin operands sink).Alike environments worlds
      (second.runBuiltinInto right redirect builtin operands sink) := by
  unfold Session.runBuiltinInto
  obtain ⟨failure, shut, shut'⟩ | ⟨file, opened, opened', found, found', between⟩ :=
    coupling.openRedirect_alike alike redirect
  · simp only [shut, shut']
    exact ⟨rfl, alike, rfl⟩
  · simp only [found, found']
    obtain ⟨report, session, session', did, did', after⟩ :=
      split_of_alike (coupling.perform_alike between builtin operands)
    simp only [did, did']
    cases report with
    | error failure => exact ⟨rfl, after, rfl⟩
    | ok report =>
        simp only [coupling.session_system after]
        exact ⟨rfl, coupling.alike_withSystem after _, rfl⟩

theorem runProgram_alike (program : Path) (arguments : List String) (output : Option OpenFile)
    (sink : Sink) :
    (first.runProgram left program arguments output sink).Alike environments worlds
      (second.runProgram right program arguments output sink) := by
  unfold Session.runProgram
  cases sink.flush with
  | error cause => exact ⟨rfl, alike, rfl⟩
  | ok _ =>
      obtain ⟨answer, world, world', ran, ran', after⟩ :=
        split_of_alike (coupling.run alike.world alike.environment program arguments output)
      simp only [ran, ran']
      cases answer <;> exact ⟨rfl, ⟨alike.environment, alike.history, after⟩, rfl⟩

omit coupling in
theorem reportNotFound_alike (name : String) (sink : Sink) :
    (first.reportNotFound name sink).Alike environments worlds (second.reportNotFound name sink) := by
  unfold Session.reportNotFound
  cases written : sink.write (utf8 s!"{name}: command not found\n") with
  | mk result after => cases result <;> exact ⟨rfl, alike, rfl⟩

theorem dispatch_alike (command : Command) (redirect : Option Redirection) (sink : Sink) :
    (first.dispatch left command redirect sink).Alike environments worlds
      (second.dispatch right command redirect sink) := by
  unfold Session.dispatch
  cases command.kind with
  | builtin builtin =>
      dsimp only
      cases redirect.filter fun _ => builtin.honorsRedirection with
      | none => exact coupling.runBuiltin_alike alike builtin command.arguments sink
      | some redirect =>
          exact coupling.runBuiltinInto_alike alike redirect builtin command.arguments sink
  | external program =>
      cases redirect with
      | none => exact coupling.runProgram_alike alike program command.arguments none sink
      | some redirect =>
          obtain ⟨failure, shut, shut'⟩ | ⟨file, opened, opened', found, found', between⟩ :=
            coupling.openRedirect_alike alike redirect
          · simp only [shut, shut']
            exact ⟨rfl, alike, rfl⟩
          · simp only [found, found']
            exact coupling.runProgram_alike between program command.arguments (some file) sink
  | notFound => exact reportNotFound_alike alike command.name sink

theorem executeLine_alike (line : String) (sink : Sink) :
    (first.executeLine left line sink).Alike environments worlds
      (second.executeLine right line sink) := by
  unfold Session.executeLine
  rw [coupling.understand_eq alike]
  cases second.understand line with
  | error missing => exact ⟨rfl, alike, rfl⟩
  | ok asked =>
      obtain ⟨command, redirect⟩ := asked
      cases command with
      | none => exact ⟨rfl, alike, rfl⟩
      | some command => exact coupling.dispatch_alike alike command redirect sink

omit coupling in
theorem remember_alike (line : String) :
    (first.remember line).Alike environments worlds (second.remember line) := by
  unfold Session.remember
  split
  · exact alike
  · exact ⟨alike.environment, by rw [alike.history], alike.world⟩

theorem complain_alike (diagnostic : Option Failure) :
    (first.complain diagnostic).Alike environments worlds (second.complain diagnostic) := by
  cases diagnostic with
  | none => exact alike
  | some failure =>
      simp only [Session.complain, coupling.session_system alike]
      exact coupling.alike_withSystem alike _

theorem enterLine_alike (line : String) (stdout : Sink) :
    (first.enterLine left line stdout).1 = (second.enterLine right line stdout).1 ∧
      (first.enterLine left line stdout).2.Alike environments worlds
        (second.enterLine right line stdout).2 := by
  obtain ⟨results, sessions, sinks⟩ :=
    coupling.executeLine_alike (remember_alike alike line) line stdout
  have shown := coupling.alike_withSystem sessions
    (((second.remember line).executeLine right line stdout).session.system.writeStdout
      ((second.remember line).executeLine right line stdout).sink.accepted)
  simp only [Session.enterLine, results, sinks, coupling.session_system sessions]
  cases ((second.remember line).executeLine right line stdout).result with
  | error cause => exact ⟨rfl, shown⟩
  | ok outcome => exact ⟨rfl, coupling.complain_alike shown outcome.diagnostic⟩

end Coupling

/-! ## Worlds carried over -/

section Carried

variable {world : World Left → World Right} {left : Host Left} {right : Host Right}

def Session.carried (world : World Left → World Right) (session : Session Left) : Session Right :=
  { session with world := world session.world }

/-- Sessions are alike where one host answers in the world carried over what the other answers in the
world itself. -/
theorem Coupling.of_carried (system : ∀ before, (world before).system = before.system)
    (withSystem : ∀ before system, world { before with system } = { world before with system })
    (changeDir : ∀ dir before, right.changeDir dir (world before) =
      ((left.changeDir dir before).1, world (left.changeDir dir before).2))
    (run : ∀ invocation before, right.run invocation (world before) =
      ((left.run invocation before).1, world (left.run invocation before).2)) :
    Coupling Eq (fun first second => world first = second) left right where
  currentDir alike := by rw [alike]
  searchPath alike := by rw [alike]
  home alike := by rw [alike]
  movedTo alike dir := by rw [alike]
  exited alike := by rw [alike]
  system alike := by subst alike; exact (system _).symm
  withSystem alike after := by subst alike; exact withSystem _ after
  changeDir alike dir := by subst alike; rw [changeDir]; exact ⟨rfl, rfl⟩
  run alike _ _ same program arguments output := by
    subst alike same
    rw [run]
    exact ⟨rfl, rfl⟩

theorem Session.alike_carried (session : Session Left) :
    session.Alike Eq (fun first second => world first = second) (session.carried world) :=
  ⟨rfl, rfl, rfl⟩

theorem Session.eq_carried_of_alike {first : Session Left} {second : Session Right}
    (alike : first.Alike Eq (fun first second => world first = second) second) :
    second = first.carried world := by
  obtain ⟨environment, history, worlds⟩ := alike
  cases second with
  | mk _ _ _ =>
      simp only [carried, Session.mk.injEq]
      exact ⟨environment.symm, history.symm, worlds.symm⟩

end Carried

end LineShell
