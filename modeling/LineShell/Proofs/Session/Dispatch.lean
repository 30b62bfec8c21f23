import LineShell.Session.Run
/-!
What running a command does to a session, by the kind of the command: only `cd` and `exit` touch the
environment, and only `cd` and programs reach the host.
-/

namespace LineShell

def Environment.movedTo (environment : Environment) (dir : Path) : Environment :=
  { environment.set "PWD" dir.text with currentDir := dir }

namespace Session

variable {Memory : Type} (host : Host Memory) {session : Session Memory}

/-! ## Sessions that differ in the system alone -/

/-- Nothing but the system may have changed from one session to another. -/
structure SameButSystem (before after : Session Memory) : Prop where
  environment : after.environment = before.environment
  history : after.history = before.history
  memory : after.world.memory = before.world.memory

theorem SameButSystem.refl (session : Session Memory) : SameButSystem session session :=
  ⟨rfl, rfl, rfl⟩

theorem SameButSystem.withSystem (session : Session Memory) (system : System) :
    SameButSystem session (session.withSystem system) :=
  ⟨rfl, rfl, rfl⟩

theorem SameButSystem.trans {first second third : Session Memory}
    (left : SameButSystem first second) (right : SameButSystem second third) :
    SameButSystem first third :=
  ⟨right.environment.trans left.environment, right.history.trans left.history,
    right.memory.trans left.memory⟩

theorem openRedirect_sameButSystem {redirect : Redirection} {file : OpenFile}
    {after : Session Memory} (opened : session.openRedirect redirect = .ok (file, after)) :
    SameButSystem session after := by
  unfold openRedirect at opened
  split at opened
  · contradiction
  · cases opened
    exact .withSystem session _

/-! ## Going to a directory -/

/-- The place that operands send `cd` to: the first of them names it, or `HOME` does. -/
def Leads (session : Session Memory) (operands : List String) (location : Location) : Prop :=
  ∃ target : Path,
    (if operands.head? = none ∨ operands.head? = some "~" then
      session.environment.home = some target
    else operands.head? = some target.text) ∧
    session.system.canonicalize (session.environment.currentDir.join target) = .ok location ∧
    session.system.files.isDirectory location = true

theorem cdTarget_eq_ok_iff (environment : Environment) (operands : List String) (target : Path) :
    (∃ shown, cdTarget environment operands = .ok (shown, target)) ↔
      if operands.head? = none ∨ operands.head? = some "~" then environment.home = some target
      else operands.head? = some target.text := by
  unfold cdTarget
  split
  · cases environment.home <;> simp
  · cases environment.home <;> simp
  · next operand rest other =>
      have same : (⟨operand⟩ : Path) = target ↔ operand = target.text := by cases target; simp
      simp [show operand ≠ "~" from other, same]

theorem cdLocation_eq_ok_iff (shown : String) (target : Path) (location : Location) :
    session.cdLocation shown target = .ok location ↔
      session.system.canonicalize (session.environment.currentDir.join target) = .ok location ∧
        session.system.files.isDirectory location = true := by
  unfold cdLocation
  cases session.system.canonicalize (session.environment.currentDir.join target) with
  | error cause => simp
  | ok place =>
      by_cases directory : session.system.files.isDirectory place = true
      · simp only [directory, if_true, Except.ok.injEq]
        exact ⟨fun same => ⟨same, same ▸ directory⟩, fun found => found.1⟩
      · simp only [directory, if_false, Except.ok.injEq, reduceCtorEq, false_iff, not_and]
        exact fun same => same ▸ directory

/-- Where the operands lead to a place, the host is asked to go there and decides. -/
theorem cd_of_leads {operands : List String} {location : Location}
    (leads : session.Leads operands location) :
    match host.changeDir location.path session.world with
    | (.ok (), world) =>
        session.cd host operands =
          (.ok {}, { session with environment := session.environment.movedTo location.path, world })
    | (.error cause, world) =>
        ∃ shown, session.cd host operands =
          (.error (.changeDirectory shown cause), { session with world }) := by
  obtain ⟨target, chosen, found⟩ := leads
  obtain ⟨shown, named⟩ := (cdTarget_eq_ok_iff _ _ _).mpr chosen
  have place := (session.cdLocation_eq_ok_iff shown target location).mpr found
  cases answered : host.changeDir location.path session.world with
  | mk answer world =>
      cases answer with
      | error cause => exact ⟨shown, by simp only [cd, named, place, answered]⟩
      | ok _ => simp only [cd, named, place, answered, Environment.movedTo]

theorem cd_of_stuck {operands : List String} (stuck : ∀ location, ¬ session.Leads operands location) :
    ∃ failure, session.cd host operands = (.error failure, session) := by
  cases named : cdTarget session.environment operands with
  | error failure => exact ⟨failure, by simp only [cd, named]⟩
  | ok choice =>
      obtain ⟨shown, target⟩ := choice
      cases place : session.cdLocation shown target with
      | error failure => exact ⟨failure, by simp only [cd, named, place]⟩
      | ok location =>
          have chosen := (cdTarget_eq_ok_iff _ _ _).mp ⟨shown, named⟩
          have found := (session.cdLocation_eq_ok_iff shown target location).mp place
          exact absurd ⟨target, chosen, found⟩ (stuck location)

/-- All that `cd` can come to: it fails by itself, the host goes where it leads, or the host refuses. -/
theorem cd_cases (session : Session Memory) (operands : List String) :
    (∃ failure, session.cd host operands = (.error failure, session)) ∨
      ∃ location, session.Leads operands location ∧
        ((∃ world, host.changeDir location.path session.world = (.ok (), world) ∧
            session.cd host operands = (.ok {},
              { session with environment := session.environment.movedTo location.path, world })) ∨
          ∃ cause world failure, host.changeDir location.path session.world = (.error cause, world) ∧
            session.cd host operands = (.error failure, { session with world })) := by
  by_cases leads : ∃ location, session.Leads operands location
  · obtain ⟨location, leads⟩ := leads
    have gone := cd_of_leads host leads
    refine .inr ⟨location, leads, ?_⟩
    cases answered : host.changeDir location.path session.world with
    | mk answer world =>
        rw [answered] at gone
        cases answer with
        | ok _ => exact .inl ⟨world, rfl, gone⟩
        | error cause =>
            obtain ⟨shown, refused⟩ := gone
            exact .inr ⟨cause, world, _, rfl, refused⟩
  · exact .inl (cd_of_stuck host (not_exists.mp leads))

/-! ## Builtins -/

theorem perform_session (session : Session Memory) {builtin : Builtin} (operands : List String) (cd : builtin ≠ .cd)
    (exit : builtin ≠ .exit) : (session.perform host builtin operands).2 = session := by
  cases builtin <;> first | rfl | contradiction

theorem runBuiltin_session (builtin : Builtin) (operands : List String) (sink : Sink) :
    (session.runBuiltin host builtin operands sink).session =
      (session.perform host builtin operands).2 := by
  unfold runBuiltin
  split <;> simp [*]

theorem runBuiltinInto_sameButSystem {redirect : Redirection} {builtin : Builtin}
    (operands : List String) (sink : Sink) (cd : builtin ≠ .cd) (exit : builtin ≠ .exit) :
    SameButSystem session (session.runBuiltinInto host redirect builtin operands sink).session := by
  unfold runBuiltinInto
  split
  · exact .refl session
  · next file opened found =>
      have first := openRedirect_sameButSystem found
      have same := opened.perform_session host operands cd exit
      split
      · next performed =>
          rw [performed] at same
          cases same
          exact first
      · next performed =>
          rw [performed] at same
          cases same
          exact first.trans (.withSystem _ _)

theorem deliver_nothing {builtin : Builtin} (silent : builtin ≠ .echo) (sink : Sink) :
    builtin.deliver {} sink = (.success, sink) := by
  simp [Builtin.deliver, Sink.writeAll, silent, Outcome.success]

/-! ## Programs -/

/-- The output that a program gets: the target of the redirection, opened, if there is one. -/
def Delivers (session : Session Memory) : Option Redirection → Option OpenFile → Prop
  | none, none => True
  | some redirect, some file => ∃ system,
      session.system.openForWriting (session.environment.currentDir.join redirect.target)
        redirect.append = .ok (file, system)
  | _, _ => False

theorem delivers_some_iff (redirect : Redirection) (file : OpenFile) :
    session.Delivers (some redirect) (some file) ↔
      ∃ ready, session.openRedirect redirect = .ok (file, ready) := by
  simp only [Delivers]
  unfold openRedirect
  cases session.system.openForWriting (session.environment.currentDir.join redirect.target)
      redirect.append with
  | error cause => simp
  | ok opened =>
      obtain ⟨found, system⟩ := opened
      simp

theorem runProgram_of_unflushed (session : Session Memory) (program : Path) (arguments : List String)
    (output : Option OpenFile) {sink : Sink} (unflushed : sink.flush ≠ .ok ()) :
    ∃ cause, session.runProgram host program arguments output sink = ⟨.error cause, session, sink⟩ := by
  cases flushed : sink.flush with
  | error cause => exact ⟨cause, by simp only [runProgram, flushed]⟩
  | ok _ => exact absurd flushed unflushed

/-! ## Commands -/

section Commands

variable {command : Command} (redirect : Option Redirection) (sink : Sink)

/-- Builtins other than `echo` run as if there were no redirection. -/
theorem dispatch_builtin {builtin : Builtin} (kind : command.kind = .builtin builtin)
    (deaf : builtin ≠ .echo) :
    session.dispatch host command redirect sink =
      session.runBuiltin host builtin command.arguments sink := by
  have ignored : builtin.honorsRedirection = false := by cases builtin <;> first | rfl | contradiction
  have none : redirect.filter (fun _ => builtin.honorsRedirection) = none := by
    cases redirect <;> simp [ignored]
  simp only [dispatch, kind, none]

theorem dispatch_exit (kind : command.kind = .builtin .exit) :
    session.dispatch host command redirect sink = ⟨.ok .success, session.exit, sink⟩ := by
  rw [dispatch_builtin host redirect sink kind (by decide)]
  simp only [runBuiltin, perform, deliver_nothing (show Builtin.exit ≠ .echo by decide)]

theorem dispatch_cd_session (kind : command.kind = .builtin .cd) :
    (session.dispatch host command redirect sink).session =
      (session.cd host command.arguments).2 := by
  rw [dispatch_builtin host redirect sink kind (by decide), runBuiltin_session]
  rfl

theorem dispatch_cd_of_stuck (kind : command.kind = .builtin .cd)
    (stuck : ∀ location, ¬ session.Leads command.arguments location) :
    ∃ failure, session.dispatch host command redirect sink =
      ⟨.ok (.failed failure), session, sink⟩ := by
  obtain ⟨failure, stayed⟩ := cd_of_stuck host stuck
  exact ⟨failure, by
    rw [dispatch_builtin host redirect sink kind (by decide)]
    simp only [runBuiltin, perform, stayed]⟩

theorem dispatch_cd_of_leads (kind : command.kind = .builtin .cd) {location : Location}
    (leads : session.Leads command.arguments location) :
    match host.changeDir location.path session.world with
    | (.ok (), world) =>
        session.dispatch host command redirect sink =
          ⟨.ok .success,
            { session with environment := session.environment.movedTo location.path, world }, sink⟩
    | (.error _, world) =>
        ∃ failure, session.dispatch host command redirect sink =
          ⟨.ok (.failed failure), { session with world }, sink⟩ := by
  have gone := cd_of_leads host leads
  rw [dispatch_builtin host redirect sink kind (by decide)]
  cases answered : host.changeDir location.path session.world with
  | mk answer world =>
      rw [answered] at gone
      cases answer with
      | error cause =>
          obtain ⟨shown, refused⟩ := gone
          exact ⟨_, by simp only [runBuiltin, perform, refused]; rfl⟩
      | ok _ =>
          simp only at gone
          simp only [runBuiltin, perform, gone, deliver_nothing (show Builtin.cd ≠ .echo by decide)]

theorem dispatch_sameButSystem (cd : command.kind ≠ .builtin .cd)
    (exit : command.kind ≠ .builtin .exit)
    (program : ∀ program, command.kind ≠ .external program) :
    SameButSystem session (session.dispatch host command redirect sink).session := by
  cases kind : command.kind with
  | external path => exact absurd kind (program path)
  | notFound =>
      simp only [dispatch, kind, reportNotFound]
      split <;> exact .refl session
  | builtin builtin =>
      have notCd : builtin ≠ .cd := fun same => cd (by rw [kind, same])
      have notExit : builtin ≠ .exit := fun same => exit (by rw [kind, same])
      simp only [dispatch, kind]
      split
      · exact runBuiltinInto_sameButSystem host command.arguments sink notCd notExit
      · rw [runBuiltin_session, session.perform_session host command.arguments notCd notExit]
        exact .refl session

theorem dispatch_external_of_delivers {program : Path} (kind : command.kind = .external program)
    {output : Option OpenFile} (delivers : session.Delivers redirect output) :
    ∃ ready, SameButSystem session ready ∧
      session.dispatch host command redirect sink =
        ready.runProgram host program command.arguments output sink := by
  cases redirect with
  | none =>
      cases output with
      | none => exact ⟨session, .refl session, by simp only [dispatch, kind]⟩
      | some file => exact absurd delivers id
  | some redirect =>
      cases output with
      | none => exact absurd delivers id
      | some file =>
          obtain ⟨ready, opened⟩ := (delivers_some_iff redirect file).mp delivers
          exact ⟨ready, openRedirect_sameButSystem opened, by simp only [dispatch, kind, opened]⟩

theorem dispatch_external_of_shut {program : Path} (kind : command.kind = .external program)
    (shut : ∀ output, ¬ session.Delivers redirect output) :
    ∃ failure, session.dispatch host command redirect sink =
      ⟨.ok (.failed failure), session, sink⟩ := by
  cases redirect with
  | none => exact absurd trivial (shut none)
  | some redirect =>
      cases opened : session.openRedirect redirect with
      | error failure => exact ⟨failure, by simp only [dispatch, kind, opened]⟩
      | ok found =>
          exact absurd ((delivers_some_iff redirect found.1).mpr ⟨found.2, opened⟩) (shut (some found.1))

end Commands

end Session

end LineShell
