import LineShell.Host.Scripted
import LineShell.Proofs.Session.Environment
import Mathlib.Data.List.Forall2
/-!
Sessions side by side that differ in variables which the shell does not read. Of all variables it reads
`PATH` and `HOME` alone; so whatever the others are, the same calls come to the same, ask the same of the
host and leave the same behind.
-/

namespace LineShell

variable (differing : String → Prop)

/-- Environments that are the same but for the values of some variables. -/
structure Environment.AgreesBut (first second : Environment) : Prop where
  currentDir : first.currentDir = second.currentDir
  shouldExit : first.shouldExit = second.shouldExit
  others : ∀ name, ¬ differing name → first.get? name = second.get? name

structure Invocation.AgreesBut (first second : Invocation) : Prop where
  program : first.program = second.program
  arguments : first.arguments = second.arguments
  output : first.output = second.output
  environment : first.environment.AgreesBut differing second.environment

/-- Exchanges in which the same is asked, but for the variables that a program gets, and answered. -/
inductive Exchange.AgreesBut : Exchange → Exchange → Prop
  | changeDir (dir : Path) (answer : Except IoError Unit) :
      AgreesBut (.changeDir dir answer) (.changeDir dir answer)
  | run {first second : Invocation} (same : first.AgreesBut differing second)
      (answer : Except IoError ExitCode) : AgreesBut (.run first answer) (.run second answer)

structure Event.AgreesBut (first second : Event) : Prop where
  kind : first.kind = second.kind
  result : first.result = second.result
  exchanges : List.Forall₂ (Exchange.AgreesBut differing) first.exchanges second.exchanges
  before : first.before.AgreesBut differing second.before
  after : first.after.AgreesBut differing second.after

variable {Left Right : Type}

/-- Worlds with the same system and memories that are related. -/
structure World.Agrees (memories : Left → Right → Prop) (first : World Left) (second : World Right) :
    Prop where
  memory : memories first.memory second.memory
  system : first.system = second.system

/-- Hosts whose answers, and what they do besides, do not depend on some variables. -/
structure Host.BlindTo (memories : Left → Right → Prop) (left : Host Left) (right : Host Right) :
    Prop where
  changeDir {first : World Left} {second : World Right} (same : first.Agrees memories second)
    (dir : Path) :
    (left.changeDir dir first).1 = (right.changeDir dir second).1 ∧
      (left.changeDir dir first).2.Agrees memories (right.changeDir dir second).2
  run {first : World Left} {second : World Right} (same : first.Agrees memories second)
    {asked asked' : Invocation} (alike : asked.AgreesBut differing asked') :
    (left.run asked first).1 = (right.run asked' second).1 ∧
      (left.run asked first).2.Agrees memories (right.run asked' second).2

/-- What a call leaves of the sink it was given. A line that is entered has the shell's own streams. -/
def Call.sink? {Memory : Type} (host : Host Memory) (call : Call) (session : Session Memory) :
    Option Sink :=
  match call with
  | .execute line sink => some (session.executeLine host line sink).sink
  | .enter _ _ => none
  | .dispatch command redirect sink => some (session.dispatch host command redirect sink).sink

/-- The sinks of calls that are made in order. -/
def sinks {Memory : Type} (host : Host Memory) : List Call → Session Memory → List (Option Sink)
  | [], _ => []
  | call :: rest, session => call.sink? host session :: sinks host rest (call.answer host session).2

variable {differing} {memories : Left → Right → Prop} {left : Host Left} {right : Host Right}

/-! ## Alike in all that the shell reads -/

section Coupled

variable (path : ¬ differing "PATH") (home : ¬ differing "HOME")

theorem Environment.AgreesBut.movedTo {first second : Environment}
    (same : first.AgreesBut differing second) (dir : Path) :
    (first.movedTo dir).AgreesBut differing (second.movedTo dir) := by
  refine ⟨rfl, same.shouldExit, ?_⟩
  intro name other
  rw [get?_movedTo, get?_movedTo, same.others name other]

include path home

theorem Host.BlindTo.coupling (blind : left.BlindTo differing memories right) :
    Coupling (Environment.AgreesBut differing) (World.Agrees memories) left right where
  currentDir same := same.currentDir
  searchPath same := by rw [Environment.searchPath, Environment.searchPath, same.others "PATH" path]
  home same := by rw [Environment.home, Environment.home, same.others "HOME" home]
  movedTo same dir := same.movedTo dir
  exited same := ⟨same.currentDir, rfl, same.others⟩
  system same := same.system
  withSystem same system := ⟨same.memory, rfl⟩
  changeDir same dir := blind.changeDir same dir
  run same _ _ environment _ _ _ := blind.run same ⟨rfl, rfl, rfl, environment⟩

end Coupled

/-- What transcripts have to agree in: what the hosts remember, and what they have been asked. -/
def Transcript.AgreesBut (differing : String → Prop) (memories : Left → Right → Prop)
    (first : Transcript Left) (second : Transcript Right) : Prop :=
  memories first.inner second.inner ∧
    List.Forall₂ (Exchange.AgreesBut differing) first.exchanges second.exchanges

section Transcribed

variable {first : World (Transcript Left)} {second : World (Transcript Right)}
  (same : first.Agrees (Transcript.AgreesBut differing memories) second)

include same

theorem World.Agrees.erased : first.erased.Agrees memories second.erased :=
  ⟨same.memory.1, same.system⟩

theorem World.Agrees.noting {exchange exchange' : Exchange}
    (alike : exchange.AgreesBut differing exchange') {after : World Left} {after' : World Right}
    (next : after.Agrees memories after') :
    (first.noting exchange after).Agrees (Transcript.AgreesBut differing memories)
      (second.noting exchange' after') :=
  ⟨⟨next.memory, List.rel_append same.memory.2 (.cons alike .nil)⟩, next.system⟩

end Transcribed

theorem Host.BlindTo.transcribing (blind : left.BlindTo differing memories right) :
    left.transcribing.BlindTo differing (Transcript.AgreesBut differing memories)
      right.transcribing where
  changeDir {first second} same dir := by
    obtain ⟨answered, next⟩ := blind.changeDir same.erased dir
    have alike : Exchange.AgreesBut differing
        (.changeDir dir (left.changeDir dir first.erased).1)
        (.changeDir dir (right.changeDir dir second.erased).1) := by
      rw [answered]
      exact .changeDir dir _
    exact ⟨answered, same.noting alike next⟩
  run {first second} same {asked asked'} invoked := by
    obtain ⟨answered, next⟩ := blind.run same.erased invoked
    have alike : Exchange.AgreesBut differing (.run asked (left.run asked first.erased).1)
        (.run asked' (right.run asked' second.erased).1) := by
      rw [answered]
      exact .run invoked _
    exact ⟨answered, same.noting alike next⟩

/-! ## Side by side -/

/-- Sessions that are the same but for the values of some variables and what their hosts remember. -/
abbrev Session.AgreesBut (differing : String → Prop) (memories : Left → Right → Prop)
    (first : Session Left) (second : Session Right) : Prop :=
  first.Alike (Environment.AgreesBut differing) (World.Agrees memories) second

section Calls

variable (path : ¬ differing "PATH") (home : ¬ differing "HOME")
  (blind : left.BlindTo differing memories right) {first : Session Left} {second : Session Right}
  (same : first.AgreesBut differing memories second)

include path home blind same

theorem Call.answer_agrees (call : Call) :
    (call.answer left first).1 = (call.answer right second).1 ∧
      (call.answer left first).2.AgreesBut differing memories (call.answer right second).2 :=
  call.answer_alike (blind.coupling path home) same

theorem Call.sink?_eq (call : Call) : call.sink? left first = call.sink? right second := by
  have coupling := blind.coupling path home
  cases call with
  | execute line sink => exact congrArg some (coupling.executeLine_alike same line sink).sink
  | enter line stdout => rfl
  | dispatch command redirect sink =>
      exact congrArg some (coupling.dispatch_alike same command redirect sink).sink

theorem Call.exchanges_agree (call : Call) :
    List.Forall₂ (Exchange.AgreesBut differing) (call.exchanges left first)
      (call.exchanges right second) := by
  have written : first.transcribed.AgreesBut differing (Transcript.AgreesBut differing memories)
      second.transcribed :=
    ⟨same.environment, same.history, ⟨same.world.memory, .nil⟩, same.world.system⟩
  obtain ⟨-, after⟩ := call.answer_agrees path home blind.transcribing written
  exact after.world.memory.2

theorem Call.event_agrees (call : Call) :
    (call.event left first).AgreesBut differing (call.event right second) := by
  obtain ⟨results, after⟩ := call.answer_agrees path home blind same
  have understood (line : String) : first.kindOfLine line = second.kindOfLine line := by
    rw [Session.kindOfLine, Session.kindOfLine, (blind.coupling path home).understand_eq same]
  have kinds : call.kind first = call.kind second := by
    cases call with
    | execute line sink => exact understood line
    | enter line stdout => exact understood line
    | dispatch command redirect sink => rfl
  exact ⟨kinds, results, call.exchanges_agree path home blind same, same.environment,
    after.environment⟩

/-- Sessions that agree in the current directory, in the wish to end, in `PATH` and in `HOME`, in their
histories and their systems may differ in any other variables: if their hosts are blind to those, the same
calls come to the same, write the same, ask the hosts for the same and leave sessions that agree again. -/
theorem play_agrees (calls : List Call) :
    List.Forall₂ (Event.AgreesBut differing) (play left calls first).1 (play right calls second).1 ∧
      sinks left calls first = sinks right calls second ∧
      (play left calls first).2.AgreesBut differing memories (play right calls second).2 := by
  induction calls generalizing first second with
  | nil => exact ⟨.nil, rfl, same⟩
  | cons call rest ih =>
      obtain ⟨-, next⟩ := call.answer_agrees path home blind same
      obtain ⟨events, written, last⟩ := ih next
      refine ⟨.cons (call.event_agrees path home blind same) events, ?_, last⟩
      rw [sinks, sinks, call.sink?_eq path home blind same, written]

end Calls

theorem Host.scripted_blindTo (answers : Answers) :
    (Host.scripted answers).BlindTo differing Eq (Host.scripted answers) where
  changeDir {first second} same dir := by
    have worlds : first = second := by cases first; cases second; cases same; congr
    rw [worlds]
    exact ⟨rfl, rfl, rfl⟩
  run {first second} same {asked asked'} alike := by
    have worlds : first = second := by cases first; cases second; cases same; congr
    have answered : (Host.scripted answers).run asked first = (Host.scripted answers).run asked' first := by
      simp only [Host.scripted, alike.output]
    rw [answered, worlds]
    exact ⟨rfl, rfl, rfl⟩

theorem play_agrees_pwd :
    let differing (name : String) := name ≠ "PATH" ∧ name ≠ "HOME"
    let first : Session Unit :=
      { environment := { «variables» := [("FOO", "1"), ("PATH", "/bin")], currentDir := ⟨"/"⟩ }
        world := { memory := (), system := {} } }
    let second : Session Unit :=
      { first with environment := { first.environment with «variables» := [("PATH", "/bin"), ("PWD", "/")] } }
    let calls : List Call := [.enter "type pwd" {}, .execute "missing >> log" {}, .enter "cd /" {}]
    (¬ differing "PATH" ∧ ¬ differing "HOME" ∧ first.AgreesBut differing Eq second) ∧
      (play (Host.scripted {}) calls first).2.system = (play (Host.scripted {}) calls second).2.system := by
  intro differing first second calls
  have path : ¬ differing "PATH" := by simp [differing]
  have home : ¬ differing "HOME" := by simp [differing]
  have same : first.AgreesBut differing Eq second := by
    refine ⟨⟨rfl, rfl, ?_⟩, rfl, rfl, rfl⟩
    intro name shared
    by_cases search : name = "PATH"
    · subst search
      rfl
    · have own : name = "HOME" := by simpa [differing, search] using shared
      subst own
      rfl
  obtain ⟨-, -, last⟩ := play_agrees path home (Host.scripted_blindTo {}) same calls
  exact ⟨⟨path, home, same⟩, last.world.system⟩

end LineShell
