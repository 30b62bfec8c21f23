import LineShell.Proofs.Session.Requests
/-!
All that a call may do to the environment, and what it asks of the host along with that.
-/

namespace LineShell

/-- From an environment: what kind of command runs, what it comes to, what it asks of the host and the
environment that it leaves. -/
inductive Effect (before : Environment) :
    Option CommandKind → Except IoError Outcome → List Exchange → Environment → Prop
  | quiet {kind : Option CommandKind} (result : Except IoError Outcome)
      (cd : kind ≠ some (.builtin .cd)) (exit : kind ≠ some (.builtin .exit)) :
      Effect before kind result [] before
  | ran (program : Path) (result : Except IoError Outcome) (invocation : Invocation)
      (answer : Except IoError ExitCode) :
      Effect before (some (.external program)) result [.run invocation answer] before
  | stuck (failure : Failure) :
      Effect before (some (.builtin .cd)) (.ok (.failed failure)) [] before
  | refused (failure : Failure) (dir : Path) (cause : IoError) :
      Effect before (some (.builtin .cd)) (.ok (.failed failure)) [.changeDir dir (.error cause)] before
  | moved (dir : Path) :
      Effect before (some (.builtin .cd)) (.ok .success) [.changeDir dir (.ok ())] (before.movedTo dir)
  | left : Effect before (some (.builtin .exit)) (.ok .success) [] { before with shouldExit := true }

variable {Memory : Type} (host : Host Memory)

namespace Session

def Since (before after : Session (Transcript Memory)) (asked : List Exchange) : Prop :=
  after.exchanges = before.exchanges ++ asked

theorem SameButSystem.since {before after : Session (Transcript Memory)}
    (same : SameButSystem before after) : before.Since after [] := by
  rw [Since, same.exchanges, List.append_nil]

theorem dispatch_effect (session : Session (Transcript Memory)) (command : Command)
    (redirect : Option Redirection) (sink : Sink) :
    let turn := session.dispatch host.transcribing command redirect sink
    ∃ asked, session.Since turn.session asked ∧
      Effect session.environment (some command.kind) turn.result asked turn.session.environment := by
  intro turn
  -- Nothing but the system changes: no request, and neither `cd` nor `exit`.
  have quiet (same : SameButSystem session turn.session) (cd : command.kind ≠ .builtin .cd)
      (exit : command.kind ≠ .builtin .exit) :
      ∃ asked, session.Since turn.session asked ∧
        Effect session.environment (some command.kind) turn.result asked turn.session.environment := by
    rw [same.environment]
    exact ⟨[], same.since, .quiet _ (by simpa using cd) (by simpa using exit)⟩
  cases kind : command.kind with
  | notFound =>
      rw [← kind]
      exact quiet (dispatch_sameButSystem host.transcribing redirect sink (by simp [kind]) (by simp [kind])
        (by simp [kind])) (by simp [kind]) (by simp [kind])
  | external program =>
      by_cases ready : ∃ output, session.Delivers redirect output ∧ sink.flush = .ok ()
      · obtain ⟨output, delivers, flushes⟩ := ready
        obtain ⟨answer, -, same, noted⟩ := dispatch_launching host redirect kind delivers flushes
        refine ⟨_, noted, ?_⟩
        rw [same]
        exact .ran program _ _ answer
      · have idle (output : Option OpenFile) (delivers : session.Delivers redirect output) :
            sink.flush ≠ .ok () :=
          fun flushes => ready ⟨output, delivers, flushes⟩
        rw [← kind]
        exact quiet (dispatch_not_launching host redirect kind idle) (by simp [kind]) (by simp [kind])
  | builtin builtin =>
      by_cases isCd : builtin = .cd
      · subst isCd
        by_cases leads : ∃ location, session.Leads command.arguments location
        · obtain ⟨location, leads⟩ := leads
          obtain ⟨answer, noted, after⟩ := dispatch_travelling host redirect kind leads sink
          refine ⟨_, noted, ?_⟩
          cases answer with
          | ok _ =>
              obtain ⟨result, environment⟩ := after
              rw [result, environment]
              exact .moved location.path
          | error cause =>
              obtain ⟨⟨failure, result⟩, environment⟩ := after
              rw [result, environment]
              exact .refused failure location.path cause
        · obtain ⟨failure, stayed⟩ :=
            dispatch_cd_of_stuck host.transcribing redirect sink kind (not_exists.mp leads)
          simp only [turn, stayed]
          exact ⟨[], (SameButSystem.refl session).since, .stuck failure⟩
      · by_cases isExit : builtin = .exit
        · subst isExit
          simp only [turn, dispatch_exit host.transcribing redirect sink kind]
          exact ⟨[], (List.append_nil session.exchanges).symm, .left⟩
        · rw [← kind]
          exact quiet (dispatch_sameButSystem host.transcribing redirect sink (by simp [kind, isCd])
            (by simp [kind, isExit]) (by simp [kind])) (by simp [kind, isCd]) (by simp [kind, isExit])

theorem executeLine_effect (session : Session (Transcript Memory)) (line : String) (sink : Sink) :
    let turn := session.executeLine host.transcribing line sink
    ∃ asked, session.Since turn.session asked ∧
      Effect session.environment (session.kindOfLine line) turn.result asked
        turn.session.environment := by
  have unmoved : session.Since session [] := (SameButSystem.refl session).since
  unfold executeLine kindOfLine
  cases session.understand line with
  | error missing => exact ⟨[], unmoved, .quiet _ nofun nofun⟩
  | ok asked =>
      obtain ⟨_ | command, redirect⟩ := asked
      · exact ⟨[], unmoved, .quiet _ nofun nofun⟩
      · exact session.dispatch_effect host command redirect sink

theorem remember_sameButHistory (session : Session Memory) (line : String) :
    (session.remember line).environment = session.environment ∧
      (session.remember line).world = session.world := by
  unfold remember
  split <;> exact ⟨rfl, rfl⟩

theorem remember_kindOfLine (session : Session Memory) (line : String) :
    (session.remember line).kindOfLine line = session.kindOfLine line := by
  obtain ⟨environment, world⟩ := session.remember_sameButHistory line
  have resolved (argv : List String) :
      (session.remember line).resolve argv = session.resolve argv := by
    simp only [resolve, system, environment, world]
  simp only [kindOfLine, understand, resolved]

theorem complain_sameButSystem (session : Session Memory) (diagnostic : Option Failure) :
    SameButSystem session (session.complain diagnostic) := by
  cases diagnostic with
  | none => exact .refl session
  | some failure => exact .withSystem session _

/-- Entering a line does what running it does, but for what is written. -/
theorem enterLine_sameButSystem (session : Session Memory) (line : String) (stdout : Sink) :
    let turn := (session.remember line).executeLine host line stdout
    (session.enterLine host line stdout).1 = turn.result ∧
      SameButSystem turn.session (session.enterLine host line stdout).2 := by
  simp only [enterLine]
  generalize (session.remember line).executeLine host line stdout = turn
  have shown := SameButSystem.withSystem turn.session
    (turn.session.system.writeStdout turn.sink.accepted)
  cases turn.result with
  | error cause => exact ⟨rfl, shown⟩
  | ok outcome => exact ⟨rfl, shown.trans (complain_sameButSystem _ outcome.diagnostic)⟩

theorem enterLine_effect (session : Session (Transcript Memory)) (line : String) (stdout : Sink) :
    let entered := session.enterLine host.transcribing line stdout
    ∃ asked, session.Since entered.2 asked ∧
      Effect session.environment (session.kindOfLine line) entered.1 asked entered.2.environment := by
  obtain ⟨result, same⟩ := session.enterLine_sameButSystem host.transcribing line stdout
  obtain ⟨environment, world⟩ := session.remember_sameButHistory line
  obtain ⟨asked, since, effect⟩ := (session.remember line).executeLine_effect host line stdout
  refine ⟨asked, ?_, ?_⟩
  · rw [Since, same.exchanges, since, exchanges, world]
    rfl
  · rw [result, same.environment, ← session.remember_kindOfLine line, ← environment]
    exact effect

end Session

theorem Session.transcribed_kindOfLine (session : Session Memory) (line : String) :
    session.transcribed.kindOfLine line = session.kindOfLine line := by
  rw [kindOfLine, transcribed_understand, kindOfLine]

theorem Call.event_effect (host : Host Memory) (call : Call) (session : Session Memory) :
    let event := call.event host session
    Effect event.before event.kind event.result event.exchanges event.after := by
  have shown := call.answer_transcribing host session
  simp only [Call.event, shown, Call.exchanges]
  have effect : ∃ asked,
      session.transcribed.Since (call.answer host.transcribing session.transcribed).2 asked ∧
        Effect session.environment (call.kind session)
          (call.answer host.transcribing session.transcribed).1 asked
          (call.answer host.transcribing session.transcribed).2.environment := by
    cases call with simp only [Call.answer, Call.kind]
    | execute line sink =>
        rw [← session.transcribed_kindOfLine]
        exact session.transcribed.executeLine_effect host line sink
    | enter line stdout =>
        rw [← session.transcribed_kindOfLine]
        exact session.transcribed.enterLine_effect host line stdout
    | dispatch command redirect sink => exact session.transcribed.dispatch_effect host command redirect sink
  obtain ⟨asked, since, effect⟩ := effect
  rw [Session.Since, Session.transcribed_exchanges, List.nil_append] at since
  rw [since]
  exact effect

end LineShell
