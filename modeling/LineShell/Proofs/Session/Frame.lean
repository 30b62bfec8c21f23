import LineShell.Host.Scripted
import LineShell.Proofs.FileSystem.View
import LineShell.Proofs.Session.Effect
/-!
Which files a line may change: the one that its redirection names, and that one only where the output
of an `echo` or of a program goes there.
-/

namespace LineShell

/-- Whether a redirection takes effect on commands of a kind. -/
def CommandKind.TakesRedirection (kind : CommandKind) : Prop :=
  kind = .builtin .echo ∨ ∃ program, kind = .external program

variable {Memory : Type}

/-- A host that changes no file when the shell goes to another directory. -/
def Host.OnlyMoves (host : Host Memory) : Prop :=
  ∀ dir world, (host.changeDir dir world).2.system.view = world.system.view

/-- A host that changes no file but the one that the output of a program goes to. -/
structure Host.KeepsFiles (host : Host Memory) : Prop where
  changeDir : host.OnlyMoves
  run (invocation : Invocation) (world : World Memory) (none : invocation.output = none) :
    (host.run invocation world).2.system.view = world.system.view
  runInto (invocation : Invocation) (world : World Memory) {file : OpenFile}
    (some : invocation.output = some file) {place : Location} (apart : place ≠ file.location) :
    (host.run invocation world).2.system.view.node? place = world.system.view.node? place

theorem Host.scripted_onlyMoves (answers : Answers) : (Host.scripted answers).OnlyMoves := by
  intro dir world
  simp only [Host.scripted]
  cases answers.changeDirError <;> rfl

theorem Host.scripted_keepsFiles (answers : Answers) : (Host.scripted answers).KeepsFiles where
  changeDir := Host.scripted_onlyMoves answers
  run invocation world none := by
    simp only [Host.scripted, none]
    cases answers.runError <;> rfl
  runInto invocation world file some place apart := by
    simp only [Host.scripted, some]
    cases answers.runError with
    | some cause => rfl
    | none =>
        dsimp only
        cases wrote : world.system.write file (utf8 answers.output) with
        | error cause => rfl
        | ok written => exact System.write_node? wrote apart

namespace Session

variable (host : Host Memory) {session : Session Memory}

/-- The file that a redirection names, seen from the current directory. -/
def Names (session : Session Memory) (redirect : Redirection) (place : Location) : Prop :=
  session.system.view.Names session.system.workingDir
    (session.environment.currentDir.join redirect.target) place

/-! ## Opening the target -/

theorem openRedirect_eq_ok {redirect : Redirection} {file : OpenFile} {opened : Session Memory}
    (found : session.openRedirect redirect = .ok (file, opened)) :
    session.system.openForWriting (session.environment.currentDir.join redirect.target)
        redirect.append = .ok (file, opened.system) ∧
      opened = session.withSystem opened.system := by
  unfold openRedirect at found
  split at found
  · contradiction
  · next ready =>
      cases found
      exact ⟨ready, rfl⟩

/-- A name in the root directory is opened there, as a new file or as the file that it is. -/
theorem openRedirect_of_name (session : Session Memory) (redirect : Redirection) {path : Path}
    (seen : session.environment.currentDir.join redirect.target = path) (name : String)
    (read : Route.ofPath path = ⟨true, [.down name], false⟩)
    (spelled : FileSystem.checkPath path = .ok ())
    (short : session.system.view.checkLength path = .ok ())
    (shortName : ¬ session.system.view.limits.nameBytes < name.utf8ByteSize)
    (old : Option (Nat × Bytes))
    (standing : session.system.view.node? [name] = old.map fun file => .file file.1 file.2) :
    let made := if redirect.append && old.isSome then session.system.files
      else session.system.files.put [name]
        (.opened redirect.append (session.system.view.node? [name]))
    session.openRedirect redirect = .ok (⟨[name], redirect.append, 0⟩,
      session.withSystem { session.system with files := { made with descriptors := [] } }) := by
  have root : session.system.view.node? [] = some .directory := rfl
  have walked : session.system.view.walk session.system.view.limits.links [] [] =
      .ok ([], session.system.view.limits.links) := by rw [FileSystem.walk]
  have target : session.system.view.writeTarget session.system.view.limits.links
      session.system.workingDir (Route.ofPath path) = .ok [name] := by
    rw [read]
    refine FileSystem.writeTarget_of_name rfl rfl walked root shortName ?_
    rw [List.nil_append, standing]
    cases old with
    | none => rfl
    | some file => trivial
  unfold openRedirect
  rw [seen, System.openForWriting, FileSystem.openForWriting_of_target spelled short target, standing]
  cases old with
  | none =>
      rw [Option.isSome_none, Bool.and_false, if_neg Bool.false_ne_true]
      rfl
  | some file =>
      rw [Option.isSome_some, Bool.and_true]
      cases redirect.append <;> rfl

section Opened

variable {redirect : Redirection} {file : OpenFile} {opened : Session Memory}
  (found : session.openRedirect redirect = .ok (file, opened))

include found

theorem openRedirect_names : session.Names redirect file.location :=
  FileSystem.openForWriting_names (System.openForWriting_view (openRedirect_eq_ok found).1)

theorem openRedirect_node? (place : Location) :
    opened.system.view.node? place =
      if place = file.location then
        some (.opened redirect.append (session.system.view.node? file.location))
      else session.system.view.node? place :=
  FileSystem.openForWriting_node? (System.openForWriting_view (openRedirect_eq_ok found).1) place

theorem openRedirect_file : file.append = redirect.append ∧ file.offset = 0 := by
  rw [(FileSystem.openForWriting_files (System.openForWriting_view (openRedirect_eq_ok found).1)).1]
  exact ⟨rfl, rfl⟩

/-- A file that has just been opened takes bytes behind those that the opening has left in it. -/
theorem write_opened {mode : Nat} {left : Bytes} (bytes : Bytes)
    (regular : opened.system.view.node? file.location = some (.file mode left)) :
    ∃ written after, opened.system.write file bytes = .ok (written, after) ∧
      after.view = opened.system.view.put file.location (.file mode (left ++ bytes)) := by
  obtain ⟨written, after, wrote, view⟩ := System.write_file bytes regular
  obtain ⟨mode, start⟩ := openRedirect_file found
  refine ⟨written, after, wrote, ?_⟩
  rw [view, mode, start]
  cases append : redirect.append with
  | true => rw [if_pos rfl, Bytes.overwrite_at_end]
  | false =>
      have node := openRedirect_node? found file.location
      rw [if_pos rfl, regular, Option.some.injEq] at node
      have empty : left = [] := by simpa [append] using Node.opened_bytes node.symm
      rw [if_neg Bool.false_ne_true, empty, Bytes.overwrite_nothing, List.nil_append]

end Opened

/-! ## What the parts of a command leave alone -/

section Commands

variable (sink : Sink)

theorem cd_view {host : Host Memory} (moves : host.OnlyMoves) (operands : List String) :
    (session.cd host operands).2.system.view = session.system.view := by
  obtain ⟨failure, stayed⟩ | ⟨location, -, answer⟩ := session.cd_cases host operands
  · rw [stayed]
  · have kept := moves location.path session.world
    obtain ⟨world, answered, gone⟩ | ⟨_, world, _, answered, refused⟩ := answer
    · rw [answered] at kept
      rw [gone]
      exact kept
    · rw [answered] at kept
      rw [refused]
      exact kept

theorem perform_view {host : Host Memory} (moves : host.OnlyMoves) (builtin : Builtin)
    (operands : List String) :
    (session.perform host builtin operands).2.system.view = session.system.view := by
  cases builtin with
  | cd => exact cd_view moves operands
  | _ => rfl

theorem runBuiltin_view {host : Host Memory} (moves : host.OnlyMoves) (builtin : Builtin)
    (operands : List String) :
    (session.runBuiltin host builtin operands sink).session.system.view = session.system.view := by
  rw [runBuiltin_session]
  exact perform_view moves builtin operands

theorem runProgram_of_flushed (session : Session Memory) (program : Path) (arguments : List String)
    (output : Option OpenFile) {sink : Sink} (flushed : sink.flush = .ok ()) :
    session.runProgram host program arguments output sink =
      let answered := host.run ⟨program, arguments, session.environment, output⟩ session.world
      ⟨.ok (.ofAnswer program answered.1), { session with world := answered.2 }, sink⟩ := by
  simp only [runProgram, flushed]
  cases host.run ⟨program, arguments, session.environment, output⟩ session.world with
  | mk answer world => cases answer <;> rfl

theorem runProgram_sink (session : Session Memory) (program : Path) (arguments : List String)
    (output : Option OpenFile) : (session.runProgram host program arguments output sink).sink = sink := by
  by_cases flushed : sink.flush = .ok ()
  · rw [runProgram_of_flushed host session program arguments output flushed]
  · obtain ⟨cause, stopped⟩ :=
      session.runProgram_of_unflushed host program arguments output flushed
    rw [stopped]

theorem runProgram_view {host : Host Memory} (keeps : host.KeepsFiles) (session : Session Memory)
    (program : Path) (arguments : List String) :
    (session.runProgram host program arguments none sink).session.system.view =
      session.system.view := by
  by_cases flushed : sink.flush = .ok ()
  · rw [runProgram_of_flushed host session program arguments none flushed]
    exact keeps.run _ session.world rfl
  · obtain ⟨cause, stopped⟩ := session.runProgram_of_unflushed host program arguments none flushed
    rw [stopped]

theorem runProgram_node? {host : Host Memory} (keeps : host.KeepsFiles) (session : Session Memory)
    (program : Path) (arguments : List String) {file : OpenFile} {place : Location}
    (apart : place ≠ file.location) :
    (session.runProgram host program arguments (some file) sink).session.system.view.node? place =
      session.system.view.node? place := by
  by_cases flushed : sink.flush = .ok ()
  · rw [runProgram_of_flushed host session program arguments (some file) flushed]
    exact keeps.runInto _ session.world rfl apart
  · obtain ⟨cause, stopped⟩ :=
      session.runProgram_of_unflushed host program arguments (some file) flushed
    rw [stopped]

theorem runBuiltinInto_of_shut {redirect : Redirection} {failure : Failure}
    (shut : session.openRedirect redirect = .error failure) (builtin : Builtin)
    (operands : List String) :
    session.runBuiltinInto host redirect builtin operands sink =
      ⟨.ok (.failed failure), session, sink⟩ := by
  unfold runBuiltinInto
  rw [shut]

theorem runBuiltinInto_echo {redirect : Redirection} {file : OpenFile} {opened : Session Memory}
    (found : session.openRedirect redirect = .ok (file, opened)) {operands : List String}
    {outcome : Outcome} {system : System}
    (delivered : Builtin.echo.deliverToFile (.ofEcho operands) file opened.system = (outcome, system)) :
    session.runBuiltinInto host redirect .echo operands sink =
      ⟨.ok outcome, opened.withSystem system, sink⟩ := by
  unfold runBuiltinInto
  rw [found]
  dsimp only [perform]
  rw [delivered]

theorem deliverToFile_node? {builtin : Builtin} {report : Report} {file : OpenFile}
    {before after : System} {outcome : Outcome}
    (delivered : builtin.deliverToFile report file before = (outcome, after)) {place : Location}
    (apart : place ≠ file.location) : after.view.node? place = before.view.node? place := by
  unfold Builtin.deliverToFile at delivered
  split at delivered
  · cases delivered
    rfl
  · next wrote =>
      cases delivered
      exact System.write_node? wrote apart

theorem runBuiltinInto_node? {redirect : Redirection} {file : OpenFile} {opened : Session Memory}
    (found : session.openRedirect redirect = .ok (file, opened)) (operands : List String)
    {place : Location} (apart : place ≠ file.location) :
    (session.runBuiltinInto host redirect .echo operands sink).session.system.view.node? place =
      session.system.view.node? place := by
  have before := openRedirect_node? found place
  rw [if_neg apart] at before
  cases delivered : Builtin.echo.deliverToFile (.ofEcho operands) file opened.system with
  | mk outcome system =>
      rw [runBuiltinInto_echo host sink found delivered, ← before]
      exact deliverToFile_node? delivered apart

/-! ## Commands -/

variable {command : Command}

theorem dispatch_echo_into (redirect : Redirection) (kind : command.kind = .builtin .echo) :
    session.dispatch host command (some redirect) sink =
      session.runBuiltinInto host redirect .echo command.arguments sink := by
  simp only [dispatch, kind, Option.filter, Builtin.honorsRedirection, if_true]

theorem dispatch_view {host : Host Memory} (keeps : host.KeepsFiles) (redirect : Option Redirection)
    (deaf : ∀ wanted, redirect = some wanted → ¬ command.kind.TakesRedirection) :
    (session.dispatch host command redirect sink).session.system.view = session.system.view := by
  cases kind : command.kind with
  | notFound =>
      simp only [dispatch, kind, reportNotFound]
      split <;> rfl
  | external program =>
      cases redirect with
      | none =>
          simp only [dispatch, kind]
          exact runProgram_view sink keeps session program command.arguments
      | some wanted => exact absurd (.inr ⟨program, kind⟩) (deaf wanted rfl)
  | builtin builtin =>
      simp only [dispatch, kind]
      split
      · next wanted honored =>
          obtain ⟨redirected, echo⟩ := Option.filter_eq_some_iff.mp honored
          refine absurd (.inl ?_) (deaf wanted redirected)
          cases builtin <;> first | exact kind | contradiction
      · exact runBuiltin_view sink keeps.changeDir builtin command.arguments

theorem dispatch_node? {host : Host Memory} (keeps : host.KeepsFiles) {redirect : Redirection}
    {place : Location} (apart : ¬ session.Names redirect place) :
    (session.dispatch host command (some redirect) sink).session.system.view.node? place =
      session.system.view.node? place := by
  by_cases takes : command.kind.TakesRedirection
  · obtain kind | ⟨program, kind⟩ := takes
    · rw [dispatch_echo_into host sink redirect kind]
      cases found : session.openRedirect redirect with
      | error failure => rw [runBuiltinInto_of_shut host sink found]
      | ok result =>
          refine runBuiltinInto_node? host sink found command.arguments ?_
          rintro rfl
          exact apart (openRedirect_names found)
    · simp only [dispatch, kind]
      cases found : session.openRedirect redirect with
      | error failure => rfl
      | ok result =>
          obtain ⟨file, opened⟩ := result
          have other : place ≠ file.location := by
            rintro rfl
            exact apart (openRedirect_names found)
          rw [runProgram_node? sink keeps opened program command.arguments other,
            openRedirect_node? found place, if_neg other]
  · rw [dispatch_view sink keeps (some redirect) fun _ _ => takes]

theorem dispatch_echo_file {redirect : Redirection} (kind : command.kind = .builtin .echo)
    {file : OpenFile} {opened : Session Memory}
    (found : session.openRedirect redirect = .ok (file, opened)) {mode : Nat} {left : Bytes}
    (regular : opened.system.view.node? file.location = some (.file mode left)) :
    ∃ system,
      session.dispatch host command (some redirect) sink =
          ⟨.ok .success, opened.withSystem system, sink⟩ ∧
        system.view = opened.system.view.put file.location
          (.file mode (left ++ utf8 (Report.ofEcho command.arguments).text)) := by
  obtain ⟨written, system, wrote, view⟩ :=
    write_opened found (utf8 (Report.ofEcho command.arguments).text) regular
  have delivered : Builtin.echo.deliverToFile (.ofEcho command.arguments) file opened.system =
      (.success, system) := by
    simp only [Builtin.deliverToFile, wrote, Report.ofEcho_status, Outcome.success]
  refine ⟨system, ?_, view⟩
  rw [dispatch_echo_into host sink redirect kind]
  exact runBuiltinInto_echo host sink found delivered

theorem dispatch_echo_sink (redirect : Redirection) (kind : command.kind = .builtin .echo) :
    (session.dispatch host command (some redirect) sink).sink = sink := by
  rw [dispatch_echo_into host sink redirect kind]
  cases found : session.openRedirect redirect with
  | error failure => rw [runBuiltinInto_of_shut host sink found]
  | ok result =>
      cases delivered :
          Builtin.echo.deliverToFile (.ofEcho command.arguments) result.1 result.2.system with
      | mk outcome system => rw [runBuiltinInto_echo host sink found delivered]

theorem dispatch_external_sink (redirect : Option Redirection) {program : Path}
    (kind : command.kind = .external program) :
    (session.dispatch host command redirect sink).sink = sink := by
  cases redirect with
  | none =>
      simp only [dispatch, kind]
      exact runProgram_sink host sink session program command.arguments none
  | some wanted =>
      simp only [dispatch, kind]
      cases found : session.openRedirect wanted with
      | error failure => rfl
      | ok result => exact runProgram_sink host sink result.2 program command.arguments (some result.1)

/-! ## Lines -/

theorem executeLine_of_understood {line : String} {redirect : Option Redirection}
    (understood : session.understand line = .ok (some command, redirect)) :
    session.executeLine host line sink = session.dispatch host command redirect sink := by
  rw [executeLine, understood]

section Builtins

variable {line : String} {builtin : Builtin} {redirect : Option Redirection}

theorem understand_of_builtin (session : Session Memory) {operands : List String}
    (cut : CommandLine.ofWords (Words.ofLine (trimmed line)) = .ok ⟨builtin.name :: operands, redirect⟩) :
    session.understand line = .ok (some ⟨.builtin builtin, builtin.name, operands⟩, redirect) := by
  have resolved : session.resolve (builtin.name :: operands) =
      some ⟨.builtin builtin, builtin.name, operands⟩ :=
    (resolve_eq_some_iff _ _).mpr ⟨rfl, (Command.kindOf_eq_builtin_iff ..).mpr rfl⟩
  exact (understand_eq_some_iff line _ redirect).mpr ⟨_, cut, resolved⟩

theorem words_of_builtin (understood : session.understand line = .ok (some command, redirect))
    (kind : command.kind = .builtin builtin) :
    CommandLine.ofWords (Words.ofLine (trimmed line)) =
      .ok ⟨builtin.name :: command.arguments, redirect⟩ := by
  obtain ⟨argv, cut, resolved⟩ := (understand_eq_some_iff line command redirect).mp understood
  obtain ⟨words, known⟩ := (resolve_eq_some_iff argv command).mp resolved
  rw [cut, words, (Command.kindOf_eq_builtin_iff ..).mp (known.trans kind)]

/-- Builtins other than `echo` do the same whatever redirection stands behind their operands. -/
theorem executeLine_of_builtin (session : Session Memory) (deaf : builtin ≠ .echo)
    {operands : List String}
    (cut : CommandLine.ofWords (Words.ofLine (trimmed line)) = .ok ⟨builtin.name :: operands, redirect⟩) :
    session.executeLine host line sink = session.runBuiltin host builtin operands sink := by
  rw [executeLine_of_understood host sink (session.understand_of_builtin cut)]
  exact dispatch_builtin host redirect sink rfl deaf

end Builtins

/-- A line changes no file but the one that its redirection names, and that one only if its command is
an `echo` or a program; any other line leaves all files as they are. On the other builtins a redirection
has no effect at all. What goes to a file, and what a program writes, does not reach the sink. -/
theorem executeLine_frame {host : Host Memory} (keeps : host.KeepsFiles) (session : Session Memory)
    (line : String) (sink : Sink) :
    let turn := session.executeLine host line sink
    (∀ place, turn.session.system.view.node? place ≠ session.system.view.node? place →
      ∃ command redirect, session.understand line = .ok (some command, some redirect) ∧
        command.kind.TakesRedirection ∧ session.Names redirect place) ∧
      ((∀ command redirect, session.understand line = .ok (some command, some redirect) →
          ¬ command.kind.TakesRedirection) →
        turn.session.system.view = session.system.view) ∧
      (∀ builtin operands redirect plain, builtin ≠ Builtin.echo →
        CommandLine.ofWords (Words.ofLine (trimmed line)) = .ok ⟨builtin.name :: operands, redirect⟩ →
        CommandLine.ofWords (Words.ofLine (trimmed plain)) = .ok ⟨builtin.name :: operands, none⟩ →
        turn = session.executeLine host plain sink) ∧
      (∀ command redirect, session.understand line = .ok (some command, some redirect) →
        command.kind = .builtin .echo → turn.sink = sink) ∧
      (∀ command redirect program, session.understand line = .ok (some command, redirect) →
        command.kind = .external program → turn.sink = sink) := by
  intro turn
  have untouched : (∀ command redirect, session.understand line = .ok (some command, some redirect) →
      ¬ command.kind.TakesRedirection) → turn.session.system.view = session.system.view := by
    intro deaf
    simp only [turn]
    cases understood : session.understand line with
    | error missing => rw [executeLine, understood]
    | ok asked =>
        obtain ⟨_ | command, redirect⟩ := asked
        · rw [executeLine, understood]
        · rw [executeLine_of_understood host sink understood]
          exact dispatch_view sink keeps redirect fun wanted redirected =>
            deaf command wanted (by rw [understood, redirected])
  refine ⟨?_, untouched, ?_, ?_, ?_⟩
  · intro place changed
    refine Classical.byContradiction fun apart => changed ?_
    by_cases takes : ∃ command redirect, session.understand line = .ok (some command, some redirect) ∧
        command.kind.TakesRedirection
    · obtain ⟨command, redirect, understood, takes⟩ := takes
      have elsewhere : ¬ session.Names redirect place :=
        fun named => apart ⟨command, redirect, understood, takes, named⟩
      rw [show turn = _ from executeLine_of_understood host sink understood]
      exact dispatch_node? sink keeps elsewhere
    · rw [untouched fun command redirect understood takesIt =>
        takes ⟨command, redirect, understood, takesIt⟩]
  · intro builtin operands redirect plain deaf cut plainCut
    exact (executeLine_of_builtin host sink session deaf cut).trans
      (executeLine_of_builtin host sink session deaf plainCut).symm
  · intro command redirect understood kind
    rw [show turn = _ from executeLine_of_understood host sink understood]
    exact dispatch_echo_sink host sink redirect kind
  · intro command redirect program understood kind
    rw [show turn = _ from executeLine_of_understood host sink understood]
    exact dispatch_external_sink host sink redirect kind

theorem executeLine_frame_echo :
    let session : Session Unit :=
      { environment := { «variables» := [], currentDir := ⟨"/"⟩ }
        world := { memory := (), system := {} } }
    let turn := session.executeLine (Host.scripted {}) "echo hi > log" {}
    turn.session.system.view.node? ["log"] = some (.file FileSystem.freshMode (utf8 "hi\n")) ∧
      (∃ command redirect,
        session.understand "echo hi > log" = .ok (some command, some redirect) ∧
          command.kind.TakesRedirection ∧ session.Names redirect ["log"]) ∧
      turn.sink = {} := by
  intro session turn
  have understood : session.understand "echo hi > log" =
      .ok (some ⟨.builtin .echo, "echo", ["hi"]⟩, some ⟨⟨"log"⟩, false⟩) := by rfl
  have free : session.system.view.node? ["log"] = none := by rfl
  have seen : session.environment.currentDir.join ⟨"log"⟩ = ⟨"/log"⟩ := by decide
  have opened := session.openRedirect_of_name ⟨⟨"log"⟩, false⟩ seen "log" rfl rfl rfl (by decide) none free
  have written : turn.session.system.view.node? ["log"] =
      some (.file FileSystem.freshMode (utf8 "hi\n")) := by
    obtain ⟨system, ran, view⟩ := dispatch_echo_file (Host.scripted {}) {}
      (show Command.kind ⟨.builtin .echo, "echo", ["hi"]⟩ = _ from rfl) opened (by rfl)
    have whole := congrArg (·.session.system.view.node? ["log"])
      ((executeLine_of_understood (Host.scripted {}) {} understood).trans ran)
    refine whole.trans ((congrArg (·.node? ["log"]) view).trans ?_)
    rfl
  obtain ⟨frame, -, -, quiet, -⟩ :=
    executeLine_frame (Host.scripted_keepsFiles {}) session "echo hi > log" {}
  have changed : turn.session.system.view.node? ["log"] ≠ session.system.view.node? ["log"] :=
    fun same => Option.some_ne_none _ (written.symm.trans (same.trans free))
  exact ⟨written, frame ["log"] changed, quiet _ _ understood rfl⟩

end Commands

end Session

end LineShell
