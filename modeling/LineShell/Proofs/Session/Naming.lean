import LineShell.Proofs.Lookup
import LineShell.Proofs.Session.Frame
import LineShell.Proofs.Sink
/-!
What `type` says of names beside what a line does whose command has such a name. The builtin looks names
up by itself; it comes to what a line comes to.
-/

namespace LineShell

/-- The line that tells what a name stands for. -/
def CommandKind.announcement (name : String) : CommandKind → String
  | .builtin _ => s!"{name} is a shell builtin\n"
  | .external program => s!"{name} is {program.text}\n"
  | .notFound => s!"{name}: not found\n"

/-! ## The report on names -/

namespace Report

variable (system : System) (environment : Environment)

theorem describe_eq (report : Report) (name : String) :
    let kind := Command.kindOf system environment name
    report.describe system environment name =
      { pieces := report.pieces ++ [kind.announcement name]
        status := if kind = .notFound then 1 else report.status } := by
  intro kind
  simp only [kind, describe, Command.kindOf]
  cases Builtin.ofName? name with
  | some builtin => rfl
  | none =>
      cases system.findCommand environment.searchPath environment.currentDir ⟨name⟩ <;> rfl

theorem foldl_describe (names : List String) (report : Report) :
    names.foldl (describe system environment) report =
      { pieces := report.pieces ++
          names.map fun name => (Command.kindOf system environment name).announcement name
        status :=
          if ∃ name ∈ names, Command.kindOf system environment name = .notFound then 1
          else report.status } := by
  induction names generalizing report with
  | nil => simp
  | cons name rest ih =>
      rw [List.foldl_cons, ih, describe_eq]
      by_cases unknown : Command.kindOf system environment name = .notFound <;>
        simp [unknown]

theorem ofType_of_named {names : List String} (named : names ≠ []) :
    ofType system environment names = .ok
      { pieces := names.map fun name => (Command.kindOf system environment name).announcement name
        status :=
          if ∃ name ∈ names, Command.kindOf system environment name = .notFound then 1 else 0 } := by
  rw [ofType, if_neg named, foldl_describe]
  rfl

end Report

namespace Session

variable {Memory : Type} (host : Host Memory) (session : Session Memory)

/-- What a name stands for in a session. -/
def meaning (name : String) : CommandKind :=
  Command.kindOf session.system session.environment name

theorem resolve_cons (name : String) (operands : List String) :
    session.resolve (name :: operands) = some ⟨session.meaning name, name, operands⟩ :=
  rfl

theorem meaning_builtin (builtin : Builtin) : session.meaning builtin.name = .builtin builtin :=
  (Command.kindOf_eq_builtin_iff ..).mpr rfl

theorem dispatch_type {names : List String} (named : names ≠ []) (redirect : Option Redirection)
    {sink : Sink} (takes : sink.TakesAll) :
    let lines := names.map fun name => (session.meaning name).announcement name
    session.dispatch host ⟨.builtin .type, "type", names⟩ redirect sink =
      ⟨.ok { status := if ∃ name ∈ names, session.meaning name = .notFound then 1 else 0 }, session,
        { sink with accepted := sink.accepted ++ utf8 (String.join lines) }⟩ := by
  intro lines
  have told := Report.ofType_of_named session.system session.environment named
  rw [dispatch_builtin host redirect sink rfl (by decide)]
  simp only [runBuiltin, perform, told, Builtin.deliver_of_takesAll _ _ takes]
  rfl

/-! ## Lines whose command has a name -/

/-- Another session in which names are looked up among the same files, from the same places. -/
structure LooksUpLike (later session : Session Memory) : Prop where
  view : later.system.view = session.system.view
  workingDir : later.system.workingDir = session.system.workingDir
  searchPath : later.environment.searchPath = session.environment.searchPath
  currentDir : later.environment.currentDir = session.environment.currentDir

variable {session} {later : Session Memory}

theorem LooksUpLike.meaning (alike : later.LooksUpLike session) (name : String) :
    later.meaning name = session.meaning name := by
  have found : later.system.findCommand later.environment.searchPath later.environment.currentDir ⟨name⟩ =
      session.system.findCommand session.environment.searchPath session.environment.currentDir ⟨name⟩ := by
    rw [System.findCommand, System.findCommand, alike.view, alike.workingDir, alike.searchPath,
      alike.currentDir]
  simp only [Session.meaning, Command.kindOf, found]

/-- What becomes of a line by what the name of its command stands for: a builtin runs, with its output
in the file of the redirection if it honors one; the host is asked to run a program, and nothing else;
or there is no such command. -/
def Obeys (session : Session Memory) (line : String) (sink : Sink) (name : String)
    (operands : List String) (redirect : Option Redirection) (output : Option OpenFile) :
    CommandKind → Prop
  | .builtin builtin =>
      name = builtin.name ∧
        session.executeLine host line sink =
          match redirect.filter fun _ => builtin.honorsRedirection with
          | some redirect => session.runBuiltinInto host redirect builtin operands sink
          | none => session.runBuiltin host builtin operands sink
  | .external program =>
      ∃ answer, (Call.execute line sink).exchanges host session =
        [.run ⟨program, operands, session.environment, output⟩ answer]
  | .notFound =>
      (session.executeLine host line sink).result = .ok { status := 127, diagnostic := none } ∧
        (Call.execute line sink).exchanges host session = []

section Obeying

variable {line name : String} {operands : List String} {redirect : Option Redirection}
  (cut : CommandLine.ofWords (Words.ofLine (trimmed line)) = .ok ⟨name :: operands, redirect⟩)

include cut

theorem understand_of_words (session : Session Memory) :
    session.understand line = .ok (some ⟨session.meaning name, name, operands⟩, redirect) :=
  (understand_eq_some_iff _ _ _).mpr ⟨_, cut, session.resolve_cons name operands⟩

theorem obeys_meaning (session : Session Memory) {output : Option OpenFile}
    (delivers : session.Delivers redirect output) {sink : Sink} (takes : sink.TakesAll) :
    session.Obeys host line sink name operands redirect output (session.meaning name) := by
  have understood := understand_of_words cut session
  have runs := executeLine_of_understood host sink understood
  obtain ⟨asked, -⟩ := executeLine_of_command host sink understood
  cases meant : session.meaning name with
  | builtin builtin =>
      refine ⟨(Command.kindOf_eq_builtin_iff ..).mp meant, ?_⟩
      rw [runs, meant]
      rfl
  | external program =>
      have delivers : session.transcribed.Delivers redirect output := delivers
      rw [meant] at asked
      have kind : (⟨.external program, name, operands⟩ : Command).kind = .external program := rfl
      obtain ⟨answer, -, -, noted⟩ := dispatch_launching host redirect kind delivers takes.flush
      exact ⟨answer, asked.trans noted⟩
  | notFound =>
      rw [meant] at runs asked
      constructor
      · rw [runs]
        simp only [dispatch, reportNotFound, takes.write]
        rfl
      · rw [asked]
        exact dispatch_quiet host redirect (by simp) (by simp)

end Obeying

/-- On names of any kind `type` says, line by line, what a command of the name stands for, and its status
tells whether all of them stand for something. So long as the files and the places to look in stay the
same, a line whose command has the name does what has been said. The name of a builtin always stands for
the builtin. -/
theorem type_tells (host : Host Memory) (session : Session Memory) {names : List String}
    (named : names ≠ []) (redirect : Option Redirection) {sink : Sink} (takes : sink.TakesAll) :
    let turn := session.dispatch host ⟨.builtin .type, "type", names⟩ redirect sink
    turn.sink.accepted = sink.accepted ++
        utf8 (String.join (names.map fun name => (session.meaning name).announcement name)) ∧
      (turn.result = .ok { status := 0, diagnostic := none } ∨
        turn.result = .ok { status := 1, diagnostic := none }) ∧
      (turn.result = .ok { status := 0, diagnostic := none } ↔
        ∀ name ∈ names, session.meaning name ≠ .notFound) ∧
      (∀ name, session.resolve [name] = some ⟨session.meaning name, name, []⟩) ∧
      (∀ later : Session Memory, later.LooksUpLike session →
        ∀ line name operands redirect output sink,
          CommandLine.ofWords (Words.ofLine (trimmed line)) = .ok ⟨name :: operands, redirect⟩ →
          later.Delivers redirect output → sink.TakesAll →
          later.Obeys host line sink name operands redirect output (session.meaning name)) ∧
      turn.session = session ∧
      ∀ builtin : Builtin, ∀ system environment,
        Command.kindOf system environment builtin.name = .builtin builtin := by
  intro turn
  have said : turn = _ := session.dispatch_type host named redirect takes
  refine ⟨?_, ?_, ?_, fun name => session.resolve_cons name [], ?_, ?_, ?_⟩
  · rw [said]
  · rw [said]
    by_cases unknown : ∃ name ∈ names, session.meaning name = .notFound
    · exact .inr (by rw [if_pos unknown])
    · exact .inl (by rw [if_neg unknown])
  · rw [said]
    by_cases unknown : ∃ name ∈ names, session.meaning name = .notFound
    · simpa [if_pos unknown] using unknown
    · simpa [if_neg unknown] using unknown
  · intro later alike line name operands redirect output sink cut delivers takes
    rw [← alike.meaning name]
    exact obeys_meaning host cut later delivers takes
  · rw [said]
  · intro builtin system environment
    exact (Command.kindOf_eq_builtin_iff ..).mpr rfl

theorem type_tells_program :
    let session : Session Unit :=
      { environment := { «variables» := [], currentDir := ⟨"/"⟩ }
        world := { memory := (), system := { files := { entries := [(["run"], .file 0o755 [])] } } } }
    let names := ["echo", "", "/run"]
    let turn := session.dispatch (Host.scripted {}) ⟨.builtin .type, "type", names⟩ none {}
    turn.sink.accepted = utf8 "echo is a shell builtin\n: not found\n/run is /run\n" ∧
      turn.result ≠ .ok { status := 0, diagnostic := none } := by
  intro session names turn
  have echo : session.meaning "echo" = .builtin .echo := session.meaning_builtin .echo
  have nothing : session.meaning "" = .notFound := by decide
  have executable : session.system.view.isExecutable session.system.workingDir ⟨"/run"⟩ = true := by
    have standing : session.system.view.node? ([] ++ ["run"]) = some (.file 0o755 []) := rfl
    have walked : session.system.view.walk 40 [] [.down "run"] = .ok (["run"], 40) :=
      FileSystem.walk_down rfl (by decide) standing nofun 40
    have located : session.system.view.locate [] ⟨"/run"⟩ = .ok ["run"] :=
      FileSystem.locate_of_walk rfl rfl walked
    exact FileSystem.isExecutable_iff.mpr ⟨_, _, located, standing, rfl⟩
  have program : session.meaning "/run" = .external ⟨"/run"⟩ := by
    have found : session.system.findCommand session.environment.searchPath
        session.environment.currentDir ⟨"/run"⟩ = some ⟨"/run"⟩ := by
      rw [System.findCommand, FileSystem.findCommand, executable]
      rfl
    rw [Session.meaning, Command.kindOf, found]
    rfl
  obtain ⟨written, -, status, -⟩ :=
    session.type_tells (Host.scripted {}) (show names ≠ [] by decide) none Sink.TakesAll.fresh
  constructor
  · rw [written]
    simp only [names, List.map_cons, List.map_nil, echo, nothing, program]
    decide
  · intro well
    exact status.mp well "" (by decide) nothing

end Session

end LineShell
