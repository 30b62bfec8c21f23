import LineShell.Proofs.Session.Call
/-!
What a line asks of the host: to run one program, to go to one directory, or nothing.
-/

namespace LineShell

namespace Outcome

def ofAnswer (program : Path) : Except IoError ExitCode → Outcome
  | .ok status => { status }
  | .error cause => .failed (.spawn program.text cause)

end Outcome

namespace Session

variable {Memory : Type} (host : Host Memory) {session : Session Memory}

/-- A line whose command is a program that can be started: its output can be opened and all that the
sink holds can go on first. -/
structure Launches (session : Session Memory) (line : String) (sink : Sink) (invocation : Invocation) :
    Prop where
  command : ∃ argv redirect command,
    CommandLine.ofWords (Words.ofLine (trimmed line)) = .ok ⟨argv, redirect⟩ ∧
      session.resolve argv = some command ∧ command.kind = .external invocation.program ∧
      invocation.arguments = argv.tail ∧ session.Delivers redirect invocation.output
  environment : invocation.environment = session.environment
  flushes : sink.flush = .ok ()

/-- A line that says `cd` and leads to a directory. -/
def Travels (session : Session Memory) (line : String) (dir : Path) : Prop :=
  ∃ operands redirect location,
    CommandLine.ofWords (Words.ofLine (trimmed line)) = .ok ⟨"cd" :: operands, redirect⟩ ∧
      session.Leads operands location ∧ location.path = dir

/-! ## Requests of a command -/

section Commands

variable {session : Session (Transcript Memory)} {command : Command} (redirect : Option Redirection)

theorem SameButSystem.exchanges {before after : Session (Transcript Memory)}
    (same : SameButSystem before after) : after.exchanges = before.exchanges := by
  simp only [Session.exchanges, same.memory]

theorem runProgram_transcribing (program : Path) (arguments : List String)
    (output : Option OpenFile) {sink : Sink} (flushes : sink.flush = .ok ()) :
    let turn := session.runProgram host.transcribing program arguments output sink
    ∃ answer, turn.result = .ok (.ofAnswer program answer) ∧
      turn.session.environment = session.environment ∧
      turn.session.exchanges = session.exchanges ++
        [.run ⟨program, arguments, session.environment, output⟩ answer] := by
  let invocation : Invocation := ⟨program, arguments, session.environment, output⟩
  cases answered : host.run invocation session.world.erased with
  | mk answer world =>
      refine ⟨answer, ?_⟩
      simp only [runProgram, flushes, Host.transcribing, answered, invocation]
      cases answer <;> exact ⟨rfl, rfl, rfl⟩

theorem dispatch_launching {program : Path} (kind : command.kind = .external program)
    {output : Option OpenFile} (delivers : session.Delivers redirect output) {sink : Sink}
    (flushes : sink.flush = .ok ()) :
    let turn := session.dispatch host.transcribing command redirect sink
    ∃ answer, turn.result = .ok (.ofAnswer program answer) ∧
      turn.session.environment = session.environment ∧
      turn.session.exchanges = session.exchanges ++
        [.run ⟨program, command.arguments, session.environment, output⟩ answer] := by
  obtain ⟨ready, same, runs⟩ :=
    dispatch_external_of_delivers host.transcribing redirect sink kind delivers
  rw [runs, ← same.exchanges, ← same.environment]
  exact runProgram_transcribing host program command.arguments output flushes

theorem dispatch_not_launching {program : Path} (kind : command.kind = .external program)
    {sink : Sink} (idle : ∀ output, session.Delivers redirect output → sink.flush ≠ .ok ()) :
    SameButSystem session (session.dispatch host.transcribing command redirect sink).session := by
  by_cases opens : ∃ output, session.Delivers redirect output
  · obtain ⟨output, delivers⟩ := opens
    obtain ⟨ready, same, runs⟩ :=
      dispatch_external_of_delivers host.transcribing redirect sink kind delivers
    obtain ⟨cause, unflushed⟩ := ready.runProgram_of_unflushed host.transcribing program
      command.arguments output (idle output delivers)
    rw [runs, unflushed]
    exact same
  · obtain ⟨failure, stayed⟩ :=
      dispatch_external_of_shut host.transcribing redirect sink kind (not_exists.mp opens)
    rw [stayed]
    exact .refl session

theorem dispatch_travelling (kind : command.kind = .builtin .cd) {location : Location}
    (leads : session.Leads command.arguments location) (sink : Sink) :
    let turn := session.dispatch host.transcribing command redirect sink
    ∃ answer, turn.session.exchanges = session.exchanges ++ [.changeDir location.path answer] ∧
      match answer with
      | .ok () =>
          turn.result = .ok .success ∧
            turn.session.environment = session.environment.movedTo location.path
      | .error _ =>
          (∃ failure, turn.result = .ok (.failed failure)) ∧
            turn.session.environment = session.environment := by
  have gone := dispatch_cd_of_leads host.transcribing redirect sink kind leads
  cases answered : host.changeDir location.path session.world.erased with
  | mk answer world =>
      refine ⟨answer, ?_⟩
      simp only [Host.transcribing, answered] at gone
      cases answer with
      | error cause =>
          obtain ⟨failure, refused⟩ := gone
          rw [Host.transcribing, refused]
          exact ⟨rfl, ⟨failure, rfl⟩, rfl⟩
      | ok _ =>
          simp only at gone
          rw [Host.transcribing, gone]
          exact ⟨rfl, rfl, rfl⟩

/-- A command that neither starts a program nor leads anywhere asks for nothing. -/
theorem dispatch_quiet {sink : Sink}
    (idle : ∀ program output, command.kind = .external program → session.Delivers redirect output →
      sink.flush ≠ .ok ())
    (stuck : command.kind = .builtin .cd → ∀ location, ¬ session.Leads command.arguments location) :
    (session.dispatch host.transcribing command redirect sink).session.exchanges =
      session.exchanges := by
  cases kind : command.kind with
  | external program =>
      exact (dispatch_not_launching host redirect kind fun output => idle program output kind).exchanges
  | notFound =>
      exact (dispatch_sameButSystem host.transcribing redirect sink (by simp [kind]) (by simp [kind])
        (by simp [kind])).exchanges
  | builtin builtin =>
      by_cases isCd : builtin = .cd
      · subst isCd
        obtain ⟨failure, stayed⟩ :=
          dispatch_cd_of_stuck host.transcribing redirect sink kind (stuck kind)
        rw [stayed]
      · by_cases isExit : builtin = .exit
        · subst isExit
          rw [dispatch_exit host.transcribing redirect sink kind]
          rfl
        · exact (dispatch_sameButSystem host.transcribing redirect sink (by simp [kind, isCd])
            (by simp [kind, isExit]) (by simp [kind])).exchanges

end Commands

/-! ## Requests of a line -/

theorem transcribed_understand (line : String) :
    session.transcribed.understand line = session.understand line := by
  have resolved (argv : List String) : session.transcribed.resolve argv = session.resolve argv := by
    unfold resolve
    rfl
  simp only [understand, resolved]

theorem understand_eq_some_iff (line : String) (command : Command) (redirect : Option Redirection) :
    session.understand line = .ok (some command, redirect) ↔
      ∃ argv, CommandLine.ofWords (Words.ofLine (trimmed line)) = .ok ⟨argv, redirect⟩ ∧
        session.resolve argv = some command := by
  unfold understand
  cases CommandLine.ofWords (Words.ofLine (trimmed line)) with
  | error missing => simp
  | ok cut =>
      obtain ⟨argv, behind⟩ := cut
      simp only [Except.ok.injEq, Prod.mk.injEq, CommandLine.mk.injEq]
      constructor
      · rintro ⟨resolved, same⟩
        exact ⟨argv, ⟨rfl, same⟩, resolved⟩
      · rintro ⟨_, ⟨rfl, same⟩, resolved⟩
        exact ⟨resolved, same⟩

theorem resolve_eq_some_iff (argv : List String) (command : Command) :
    session.resolve argv = some command ↔
      argv = command.name :: command.arguments ∧
        Command.kindOf session.system session.environment command.name = command.kind := by
  obtain ⟨kind, name, arguments⟩ := command
  cases argv with
  | nil => simp [resolve, Command.resolve]
  | cons first rest =>
      simp only [resolve, Command.resolve, Option.some.injEq, Command.mk.injEq, List.cons.injEq]
      constructor
      · rintro ⟨resolved, rfl, rfl⟩
        exact ⟨⟨rfl, rfl⟩, resolved⟩
      · rintro ⟨⟨rfl, rfl⟩, resolved⟩
        exact ⟨resolved, rfl, rfl⟩

section Lines

variable {line : String} (sink : Sink) {command : Command} {redirect : Option Redirection}

theorem launches_iff (understood : session.understand line = .ok (some command, redirect))
    (invocation : Invocation) :
    session.Launches line sink invocation ↔
      command.kind = .external invocation.program ∧ invocation.arguments = command.arguments ∧
        session.Delivers redirect invocation.output ∧
        invocation.environment = session.environment ∧ sink.flush = .ok () := by
  obtain ⟨argv, cut, resolved⟩ := (understand_eq_some_iff line command redirect).mp understood
  have words := ((resolve_eq_some_iff argv command).mp resolved).1
  constructor
  · rintro ⟨⟨argv', redirect', command', cut', resolved', kind, arguments, delivers⟩, same, flushes⟩
    rw [cut] at cut'
    cases cut'
    rw [resolved] at resolved'
    cases resolved'
    exact ⟨kind, by rw [arguments, words, List.tail_cons], delivers, same, flushes⟩
  · rintro ⟨kind, arguments, delivers, same, flushes⟩
    exact ⟨⟨argv, redirect, command, cut, resolved, kind, by rw [arguments, words, List.tail_cons],
      delivers⟩, same, flushes⟩

theorem travels_iff (understood : session.understand line = .ok (some command, redirect)) (dir : Path) :
    session.Travels line dir ↔
      command.kind = .builtin .cd ∧
        ∃ location, session.Leads command.arguments location ∧ location.path = dir := by
  obtain ⟨argv, cut, resolved⟩ := (understand_eq_some_iff line command redirect).mp understood
  obtain ⟨words, kind⟩ := (resolve_eq_some_iff argv command).mp resolved
  constructor
  · rintro ⟨operands, redirect', location, cut', leads, same⟩
    rw [cut, words] at cut'
    simp only [Except.ok.injEq, CommandLine.mk.injEq, List.cons.injEq] at cut'
    obtain ⟨⟨name, rfl⟩, -⟩ := cut'
    rw [← kind, Command.kindOf_eq_builtin_iff]
    exact ⟨name, location, leads, same⟩
  · rintro ⟨isCd, location, leads, same⟩
    rw [isCd, Command.kindOf_eq_builtin_iff] at kind
    exact ⟨command.arguments, redirect, location, by rw [cut, words, kind]; rfl, leads, same⟩

theorem not_requesting (silent : ∀ command redirect,
      session.understand line ≠ .ok (some command, redirect)) :
    (∀ invocation, ¬ session.Launches line sink invocation) ∧
      (∀ dir, ¬ session.Travels line dir) := by
  constructor
  · rintro invocation ⟨⟨argv, redirect, command, cut, resolved, -⟩, -⟩
    exact silent command redirect ((understand_eq_some_iff _ _ _).mpr ⟨argv, cut, resolved⟩)
  · rintro dir ⟨operands, redirect, location, cut, -⟩
    exact silent _ redirect ((understand_eq_some_iff _ _ _).mpr ⟨_, cut, rfl⟩)

theorem executeLine_of_command
    (understood : session.understand line = .ok (some command, redirect)) :
    let turn := session.transcribed.dispatch host.transcribing command redirect sink
    (Call.execute line sink).exchanges host session = turn.session.exchanges ∧
      (session.executeLine host line sink).result = turn.result := by
  have runs : session.transcribed.executeLine host.transcribing line sink =
      session.transcribed.dispatch host.transcribing command redirect sink := by
    rw [executeLine, transcribed_understand, understood]
  have same := congrArg Prod.fst (Call.answer_transcribing host (.execute line sink) session)
  simp only [Call.answer, runs] at same
  exact ⟨by simp only [Call.exchanges, Call.answer, runs], same⟩

theorem executeLine_of_silence (silent : ∀ command redirect,
    session.understand line ≠ .ok (some command, redirect)) :
    (Call.execute line sink).exchanges host session = [] := by
  have stays : (session.transcribed.executeLine host.transcribing line sink).session =
      session.transcribed := by
    rw [executeLine, transcribed_understand]
    cases understood : session.understand line with
    | error missing => rfl
    | ok asked =>
        obtain ⟨_ | command, redirect⟩ := asked
        · rfl
        · exact absurd understood (silent command redirect)
  simp only [Call.exchanges, Call.answer, stays, transcribed_exchanges]

/-- A line makes at most one request: to run the program that it launches, or to go where it travels.
The answer to a program is what the line comes to. -/
theorem executeLine_requests (host : Host Memory) (session : Session Memory) (line : String)
    (sink : Sink) :
    let result := (session.executeLine host line sink).result
    let exchanges := (Call.execute line sink).exchanges host session
    (∀ invocation, session.Launches line sink invocation →
      ∃ answer, exchanges = [.run invocation answer] ∧
        match answer with
        | .ok status => result = .ok { status, diagnostic := none }
        | .error cause =>
            result = .ok { status := 1, diagnostic := some (.spawn invocation.program.text cause) }) ∧
      (∀ dir, session.Travels line dir → ∃ answer, exchanges = [.changeDir dir answer]) ∧
      ((∀ invocation, ¬ session.Launches line sink invocation) →
        (∀ dir, ¬ session.Travels line dir) → exchanges = []) := by
  intro result exchanges
  by_cases speaks : ∃ command redirect, session.understand line = .ok (some command, redirect)
  · obtain ⟨command, redirect, understood⟩ := speaks
    obtain ⟨asked, results⟩ := executeLine_of_command host sink understood
    refine ⟨?_, ?_, ?_⟩
    · rintro ⟨program, arguments, environment, output⟩ launches
      obtain ⟨kind, rfl, delivers, rfl, flushes⟩ := (launches_iff sink understood _).mp launches
      have delivers : session.transcribed.Delivers redirect output := delivers
      obtain ⟨answer, turned, -, noted⟩ := dispatch_launching host redirect kind delivers flushes
      refine ⟨answer, asked.trans noted, ?_⟩
      cases answer <;> exact results.trans turned
    · intro dir travels
      obtain ⟨kind, location, leads, rfl⟩ := (travels_iff understood dir).mp travels
      have leads : session.transcribed.Leads command.arguments location := leads
      obtain ⟨answer, noted, -⟩ := dispatch_travelling host redirect kind leads sink
      exact ⟨answer, asked.trans noted⟩
    · intro idle stays
      rw [show exchanges = _ from asked, ← transcribed_exchanges session]
      apply dispatch_quiet
      · intro program output kind delivers flushes
        exact idle ⟨program, command.arguments, session.environment, output⟩
          ((launches_iff sink understood _).mpr ⟨kind, rfl, delivers, rfl, flushes⟩)
      · intro kind location leads
        exact stays location.path ((travels_iff understood _).mpr ⟨kind, location, leads, rfl⟩)
  · have silent : ∀ command redirect, session.understand line ≠ .ok (some command, redirect) :=
      fun command redirect understood => speaks ⟨command, redirect, understood⟩
    obtain ⟨idle, stays⟩ := not_requesting sink silent
    refine ⟨fun invocation launches => absurd launches (idle invocation),
      fun dir travels => absurd travels (stays dir), fun _ _ => executeLine_of_silence host sink silent⟩

end Lines

end Session

end LineShell
