import LineShell.Proofs.Session.Frame
/-!
Lines that end with an error. The writer is to blame: it does not take the word that a command is
unknown, or it keeps what has to go on before a program. By then nothing has been done but to open the
file that the program was to write to.
-/

namespace LineShell

namespace Session

variable {Memory : Type} (host : Host Memory) {session : Session Memory}

/-- The session as a program finds it: the target of the redirection, if there is one, is open. -/
def Readies (session : Session Memory) : Option Redirection → Session Memory → Prop
  | none, ready => ready = session
  | some redirect, ready => ∃ file, session.openRedirect redirect = .ok (file, ready)

theorem Readies.sameButSystem {redirect : Option Redirection} {ready : Session Memory}
    (readied : session.Readies redirect ready) : SameButSystem session ready := by
  cases redirect with
  | none =>
      cases readied
      exact .refl session
  | some redirect =>
      obtain ⟨file, opened⟩ := readied
      exact openRedirect_sameButSystem opened

/-- The ways in which a command ends with an error, and what is left then. -/
inductive Fails (session : Session Memory) (command : Command) (redirect : Option Redirection)
    (sink : Sink) (cause : IoError) : Turn Memory → Prop
  | unreported {full : Sink} (kind : command.kind = .notFound)
      (refused : sink.write (utf8 s!"{command.name}: command not found\n") = (.error cause, full)) :
      Fails session command redirect sink cause ⟨.error cause, session, full⟩
  | unflushed {program : Path} {ready : Session Memory} (kind : command.kind = .external program)
      (readied : session.Readies redirect ready) (kept : sink.flush = .error cause) :
      Fails session command redirect sink cause ⟨.error cause, ready, sink⟩

section Commands

variable (session) (sink : Sink) {cause : IoError}

theorem runBuiltin_ne_error (builtin : Builtin) (operands : List String) :
    (session.runBuiltin host builtin operands sink).result ≠ .error cause := by
  unfold runBuiltin
  split <;> nofun

theorem runBuiltinInto_ne_error (redirect : Redirection) (builtin : Builtin) (operands : List String) :
    (session.runBuiltinInto host redirect builtin operands sink).result ≠ .error cause := by
  unfold runBuiltinInto
  split
  · nofun
  · split <;> nofun

variable {session sink}

theorem runProgram_of_error {program : Path} {arguments : List String} {output : Option OpenFile}
    (failed : (session.runProgram host program arguments output sink).result = .error cause) :
    sink.flush = .error cause ∧
      session.runProgram host program arguments output sink = ⟨.error cause, session, sink⟩ := by
  cases flushed : sink.flush with
  | ok _ =>
      rw [runProgram_of_flushed host session program arguments output flushed] at failed
      cases failed
  | error kept =>
      have stopped : session.runProgram host program arguments output sink =
          ⟨.error kept, session, sink⟩ := by
        simp only [runProgram, flushed]
      rw [stopped] at failed
      cases failed
      exact ⟨rfl, stopped⟩

variable {command : Command} {redirect : Option Redirection}

theorem dispatch_fails (failed : (session.dispatch host command redirect sink).result = .error cause) :
    session.Fails command redirect sink cause (session.dispatch host command redirect sink) := by
  cases kind : command.kind with
  | notFound =>
      simp only [dispatch, kind, reportNotFound] at failed ⊢
      cases refused : sink.write (utf8 s!"{command.name}: command not found\n") with
      | mk answer full =>
          rw [refused] at failed
          cases answer with
          | ok _ => cases failed
          | error _ =>
              cases failed
              exact .unreported kind refused
  | builtin builtin =>
      simp only [dispatch, kind] at failed
      split at failed
      · exact absurd failed (session.runBuiltinInto_ne_error host sink _ builtin command.arguments)
      · exact absurd failed (session.runBuiltin_ne_error host sink builtin command.arguments)
  | external program =>
      cases redirect with
      | none =>
          simp only [dispatch, kind] at failed ⊢
          obtain ⟨kept, stopped⟩ := runProgram_of_error host failed
          rw [stopped]
          exact .unflushed kind rfl kept
      | some wanted =>
          simp only [dispatch, kind] at failed ⊢
          cases found : session.openRedirect wanted with
          | error failure =>
              rw [found] at failed
              cases failed
          | ok result =>
              obtain ⟨file, ready⟩ := result
              simp only [found] at failed ⊢
              obtain ⟨kept, stopped⟩ := runProgram_of_error host failed
              rw [stopped]
              exact .unflushed kind ⟨file, found⟩ kept

variable {turn : Turn Memory} (fails : session.Fails command redirect sink cause turn)

include fails

theorem Fails.dispatch : session.dispatch host command redirect sink = turn := by
  cases fails with
  | unreported kind refused => simp only [Session.dispatch, kind, reportNotFound, refused]
  | unflushed kind readied kept =>
      cases redirect with
      | none =>
          cases readied
          simp only [Session.dispatch, kind, runProgram, kept]
      | some wanted =>
          obtain ⟨file, opened⟩ := readied
          simp only [Session.dispatch, kind, opened, runProgram, kept]

theorem Fails.sameButSystem : SameButSystem session turn.session := by
  cases fails with
  | unreported _ _ => exact .refl session
  | unflushed _ readied _ => exact readied.sameButSystem

theorem Fails.unchanged_or_opened :
    turn.session = session ∨
      ∃ program wanted file, redirect = some wanted ∧ command.kind = .external program ∧
        sink.flush = .error cause ∧ session.openRedirect wanted = .ok (file, turn.session) := by
  cases fails with
  | unreported kind refused => exact .inl rfl
  | unflushed kind readied kept =>
      cases redirect with
      | none => exact .inl readied
      | some wanted =>
          obtain ⟨file, opened⟩ := readied
          exact .inr ⟨_, wanted, file, rfl, kind, kept, opened⟩

/-- A sink that takes all and passes all on lets no command fail. -/
theorem Fails.sink_limited : sink.room ≠ none ∨ sink.flushError ≠ none := by
  cases fails with
  | unreported kind refused =>
      refine .inl fun endless => ?_
      simp only [Sink.write, endless] at refused
      cases refused
  | unflushed kind readied kept =>
      refine .inr fun passes => ?_
      simp only [Sink.flush, passes] at kept
      cases kept

end Commands

theorem executeLine_fails {line : String} {sink : Sink} {cause : IoError}
    (failed : (session.executeLine host line sink).result = .error cause) :
    ∃ command redirect, session.understand line = .ok (some command, redirect) ∧
      session.Fails command redirect sink cause (session.executeLine host line sink) := by
  cases understood : session.understand line with
  | error missing =>
      rw [executeLine, understood] at failed
      cases failed
  | ok asked =>
      obtain ⟨_ | command, redirect⟩ := asked
      · rw [executeLine, understood] at failed
        cases failed
      · rw [executeLine_of_understood host sink understood] at failed ⊢
        exact ⟨command, redirect, rfl, dispatch_fails host failed⟩

/-- A line that ends with an error has asked the host for nothing and left the environment and the
history alone. The files are as before unless a program was to write to a redirection's target: that
one has been opened by the time the writer keeps what it holds. -/
theorem executeLine_of_error (session : Session Memory) (line : String) (sink : Sink)
    {cause : IoError} (failed : (session.executeLine host line sink).result = .error cause) :
    let after := (session.executeLine host line sink).session
    after.environment = session.environment ∧ after.history = session.history ∧
      (Call.execute line sink).exchanges host session = [] ∧
      (after = session ∨
        ∃ command program redirect file,
          session.understand line = .ok (some command, some redirect) ∧
            command.kind = .external program ∧ sink.flush = .error cause ∧
            session.openRedirect redirect = .ok (file, after) ∧
            ∀ place, after.system.view.node? place =
              if place = file.location then
                some (.opened redirect.append (session.system.view.node? place))
              else session.system.view.node? place) := by
  intro after
  obtain ⟨command, redirect, understood, fails⟩ := executeLine_fails host failed
  have same : SameButSystem session after := fails.sameButSystem
  -- With a transcript the line ends the same way, so nothing can have been noted in it.
  have silent : (Call.execute line sink).exchanges host session = [] := by
    have shown := congrArg Prod.fst (Call.answer_transcribing host (.execute line sink) session)
    simp only [Call.answer, failed] at shown
    obtain ⟨_, _, _, noted⟩ := executeLine_fails host.transcribing shown.symm
    simp only [Call.exchanges, Call.answer]
    exact noted.sameButSystem.exchanges
  refine ⟨same.environment, same.history, silent, ?_⟩
  obtain stayed | ⟨program, wanted, file, rfl, kind, kept, opened⟩ := fails.unchanged_or_opened
  · exact .inl stayed
  · refine .inr ⟨command, program, wanted, file, understood, kind, kept, opened, fun place => ?_⟩
    rw [openRedirect_node? opened place]
    by_cases here : place = file.location
    · rw [if_pos here, if_pos here, here]
    · rw [if_neg here, if_neg here]

theorem executeLine_of_error_unreported :
    let session : Session Unit :=
      { environment := { «variables» := [], currentDir := ⟨"/"⟩ }
        world := { memory := (), system := {} } }
    let stuck : Sink := { room := some 2 }
    let turn := session.executeLine (Host.scripted {}) "go" stuck
    turn.result = .error (.system .noSpace) ∧ turn.sink.accepted = utf8 "go" ∧
      turn.session.environment = session.environment ∧ turn.session.history = [] ∧
      (Call.execute "go" stuck).exchanges (Host.scripted {}) session = [] := by
  intro session stuck turn
  have understood : session.understand "go" = .ok (some ⟨.notFound, "go", []⟩, none) := by rfl
  have refused : stuck.write (utf8 "go: command not found\n") =
      (.error (.system .noSpace), { stuck with accepted := utf8 "go", room := some 0 }) := by rfl
  have fails : session.Fails ⟨.notFound, "go", []⟩ none stuck _ _ := .unreported rfl refused
  have stopped := (executeLine_of_understood (Host.scripted {}) stuck understood).trans
    (fails.dispatch (Host.scripted {}))
  have failed := congrArg Turn.result stopped
  obtain ⟨environment, history, silent, -⟩ :=
    session.executeLine_of_error (Host.scripted {}) "go" stuck failed
  exact ⟨failed, congrArg (·.sink.accepted) stopped, environment, history, silent⟩

/-- A file may be made by a line that ends with an error. -/
theorem executeLine_of_error_opens :
    let session : Session Unit :=
      { environment := { «variables» := [], currentDir := ⟨"/"⟩ }
        world := { memory := (), system := { files := { entries := [(["run"], .file 0o755 [])] } } } }
    let stuck : Sink := { flushError := some (.other "flush failed") }
    let turn := session.executeLine (Host.scripted {}) "/run > out" stuck
    turn.result = .error (.other "flush failed") ∧
      session.system.view.node? ["out"] = none ∧
      turn.session.system.view.node? ["out"] = some (.file FileSystem.freshMode []) := by
  intro session stuck turn
  have standing : session.system.view.node? ["run"] = some (.file 0o755 []) := rfl
  have walked : session.system.view.walk 40 [] [.down "run"] = .ok (["run"], 40) :=
    FileSystem.walk_down rfl (by decide) standing (fun _ => Node.noConfusion) 40
  have located : session.system.view.locate [] ⟨"/run"⟩ = .ok ["run"] :=
    FileSystem.locate_of_walk rfl rfl walked
  have found : session.system.findCommand "" ⟨"/"⟩ ⟨"/run"⟩ = some ⟨"/run"⟩ := by
    have executable : session.system.view.isExecutable [] ⟨"/run"⟩ = true := by
      rw [FileSystem.isExecutable, FileSystem.stat, located]
      rfl
    exact if_pos executable
  have kind : Command.kindOf session.system session.environment "/run" = .external ⟨"/run"⟩ :=
    Command.kindOf_of_found rfl found
  have understood : session.understand "/run > out" =
      .ok (some ⟨.external ⟨"/run"⟩, "/run", []⟩, some ⟨⟨"out"⟩, false⟩) :=
    (understand_eq_some_iff _ _ _).mpr ⟨["/run"], rfl, (resolve_eq_some_iff _ _).mpr ⟨rfl, kind⟩⟩
  have free : session.system.view.node? ["out"] = none := by rfl
  have seen : session.environment.currentDir.join ⟨"out"⟩ = ⟨"/out"⟩ := by decide
  have opened := session.openRedirect_of_name ⟨⟨"out"⟩, false⟩ seen "out" rfl rfl rfl
    (by decide) none free
  have fails : session.Fails ⟨.external ⟨"/run"⟩, "/run", []⟩ (some ⟨⟨"out"⟩, false⟩)
      stuck _ _ := .unflushed rfl ⟨_, opened⟩ rfl
  have stopped := (executeLine_of_understood (Host.scripted {}) stuck understood).trans
    (fails.dispatch (Host.scripted {}))
  refine ⟨congrArg Turn.result stopped, free, ?_⟩
  refine (congrArg (·.session.system.view.node? ["out"]) stopped).trans ?_
  rfl

end Session

end LineShell
