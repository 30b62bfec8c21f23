import LineShell.Proofs.Session.Frame
import LineShell.Proofs.Sink
/-!
One line on two sinks, of which the first takes all and the second only so many bytes. The second holds
as much of the text as it has room for, and nothing else tells the two runs apart but how they end.
-/

namespace LineShell

variable {Memory : Type}

/-- How a result shows that the text of a command did not fit. -/
def Outcome.CutShort (cause : IoError) : CommandKind → Except IoError Outcome → Prop
  | .builtin _, result => ∃ failure, result = .ok { status := 1, diagnostic := some failure }
  | .external _, _ => False
  | .notFound, result => result = .error cause

/-- A turn on a sink of limited room beside the same turn on a sink that takes all. -/
structure Turn.Cut (room : Nat) (cause : IoError) (kind : CommandKind) (whole cut : Turn Memory) :
    Prop where
  accepted : cut.sink.accepted = whole.sink.accepted.take room
  session : cut.session = whole.session
  fitting : whole.sink.accepted.length ≤ room → cut.result = whole.result
  short : room < whole.sink.accepted.length → Outcome.CutShort cause kind cut.result

/-- A turn that writes nothing is the same on every sink. -/
theorem Turn.cut_of_silent {turn : Sink → Turn Memory} {result : Except IoError Outcome}
    {after : Session Memory} (silent : ∀ sink, turn sink = ⟨result, after, sink⟩) (room : Nat)
    (cause : IoError) (kind : CommandKind) :
    Turn.Cut room cause kind (turn {}) (turn (.limited room cause)) := by
  rw [silent, silent]
  exact ⟨List.take_nil.symm, rfl, fun _ => rfl, fun more => absurd more (Nat.not_lt_zero room)⟩

namespace Session

variable (host : Host Memory) (session : Session Memory) (room : Nat) (cause : IoError)

/-! ## Builtins -/

theorem runBuiltin_cut (builtin : Builtin) (operands : List String) :
    Turn.Cut room cause (.builtin builtin) (session.runBuiltin host builtin operands {})
      (session.runBuiltin host builtin operands (.limited room cause)) := by
  cases performed : session.perform host builtin operands with
  | mk answer after =>
      cases answer with
      | error failure =>
          have silent (sink : Sink) : session.runBuiltin host builtin operands sink =
              ⟨.ok (.failed failure), after, sink⟩ := by
            simp only [runBuiltin, performed]
          exact Turn.cut_of_silent silent room cause _
      | ok report =>
          have all := builtin.deliver_of_takesAll report Sink.TakesAll.fresh
          simp only [runBuiltin, performed, all, Builtin.deliver_limited, List.nil_append]
          refine ⟨rfl, rfl, ?_, ?_⟩
          · intro fits
            rw [if_pos fits]
          · intro more
            rw [if_neg (Nat.not_le.mpr more)]
            exact ⟨_, rfl⟩

theorem runBuiltinInto_silent (redirect : Redirection) (builtin : Builtin) (operands : List String) :
    ∃ result after, ∀ sink,
      session.runBuiltinInto host redirect builtin operands sink = ⟨result, after, sink⟩ := by
  unfold runBuiltinInto
  cases session.openRedirect redirect with
  | error failure => exact ⟨_, _, fun _ => rfl⟩
  | ok opened =>
      obtain ⟨file, ready⟩ := opened
      dsimp only
      cases ready.perform host builtin operands with
      | mk answer after => cases answer <;> exact ⟨_, _, fun _ => rfl⟩

/-! ## Commands -/

theorem runProgram_cut (program : Path) (arguments : List String) (output : Option OpenFile)
    (kind : CommandKind) :
    Turn.Cut room cause kind (session.runProgram host program arguments output {})
      (session.runProgram host program arguments output (.limited room cause)) := by
  have flushes : ({} : Sink).flush = .ok () ∧ (Sink.limited room cause).flush = .ok () := ⟨rfl, rfl⟩
  rw [runProgram_of_flushed host session program arguments output flushes.1,
    runProgram_of_flushed host session program arguments output flushes.2]
  exact ⟨List.take_nil.symm, rfl, fun _ => rfl, fun more => absurd more (Nat.not_lt_zero room)⟩

theorem reportNotFound_cut (name : String) :
    Turn.Cut room cause .notFound (session.reportNotFound name {})
      (session.reportNotFound name (.limited room cause)) := by
  have all := Sink.TakesAll.fresh.write (utf8 s!"{name}: command not found\n")
  simp only [reportNotFound, all, Sink.write_limited, List.nil_append]
  by_cases fits : (utf8 s!"{name}: command not found\n").length ≤ room
  · simp only [if_pos fits]
    exact ⟨rfl, rfl, fun _ => rfl, fun more => absurd fits (Nat.not_le.mpr more)⟩
  · simp only [if_neg fits]
    exact ⟨rfl, rfl, fun enough => absurd enough fits, fun _ => rfl⟩

theorem dispatch_cut (command : Command) (redirect : Option Redirection) :
    Turn.Cut room cause command.kind (session.dispatch host command redirect {})
      (session.dispatch host command redirect (.limited room cause)) := by
  unfold dispatch
  cases command.kind with
  | notFound => exact session.reportNotFound_cut room cause command.name
  | external program =>
      cases redirect with
      | none => exact session.runProgram_cut host room cause program command.arguments none _
      | some redirect =>
          dsimp only
          cases session.openRedirect redirect with
          | error failure => exact Turn.cut_of_silent (fun _ => rfl) room cause _
          | ok opened =>
              exact opened.2.runProgram_cut host room cause program command.arguments (some opened.1) _
  | builtin builtin =>
      dsimp only
      cases redirect.filter fun _ => builtin.honorsRedirection with
      | none => exact session.runBuiltin_cut host room cause builtin command.arguments
      | some redirect =>
          obtain ⟨result, after, silent⟩ :=
            session.runBuiltinInto_silent host redirect builtin command.arguments
          exact Turn.cut_of_silent silent room cause _

/-! ## Lines -/

theorem executeLine_silent {line : String}
    (wordless : ∀ command redirect, session.understand line ≠ .ok (some command, redirect)) :
    ∃ result, ∀ sink, session.executeLine host line sink = ⟨result, session, sink⟩ := by
  unfold executeLine
  cases understood : session.understand line with
  | error missing => exact ⟨_, fun _ => rfl⟩
  | ok asked =>
      obtain ⟨_ | command, redirect⟩ := asked
      · exact ⟨_, fun _ => rfl⟩
      · exact absurd understood (wordless command redirect)

theorem executeLine_cut (line : String) :
    (∃ command redirect, session.understand line = .ok (some command, redirect) ∧
      Turn.Cut room cause command.kind (session.executeLine host line {})
        (session.executeLine host line (.limited room cause))) ∨
      ∃ result, ∀ sink, session.executeLine host line sink = ⟨result, session, sink⟩ := by
  by_cases speaks : ∃ command redirect, session.understand line = .ok (some command, redirect)
  · obtain ⟨command, redirect, understood⟩ := speaks
    refine .inl ⟨command, redirect, understood, ?_⟩
    rw [executeLine_of_understood host _ understood, executeLine_of_understood host _ understood]
    exact session.dispatch_cut host room cause command redirect
  · exact .inr (session.executeLine_silent host fun command redirect understood =>
      speaks ⟨command, redirect, understood⟩)

theorem executeLine_session_of_limited (line : String) :
    (session.executeLine host line (.limited room cause)).session =
      (session.executeLine host line {}).session := by
  obtain ⟨command, redirect, -, cut⟩ | ⟨result, silent⟩ := session.executeLine_cut host room cause line
  · exact cut.session
  · rw [silent, silent]

/-- On a sink that takes only so many bytes a line does all that it does on a sink that takes all: the
same environment, history, files and requests. The sink holds the start of the same text. Where that is
the whole text the line also comes to the same; else its command is a builtin, which says that it failed,
or an unknown one, and then the line ends with the error of the sink. -/
theorem executeLine_limited (line : String) :
    let whole := session.executeLine host line {}
    let cut := session.executeLine host line (.limited room cause)
    cut.sink.accepted = whole.sink.accepted.take room ∧
      cut.session = whole.session ∧
      (Call.execute line (.limited room cause)).exchanges host session =
        (Call.execute line {}).exchanges host session ∧
      (whole.sink.accepted.length ≤ room → cut.result = whole.result) ∧
      (room < whole.sink.accepted.length →
        ∃ command redirect, session.understand line = .ok (some command, redirect) ∧
          ((∃ builtin failure, command.kind = .builtin builtin ∧
              cut.result = .ok { status := 1, diagnostic := some failure }) ∨
            (command.kind = .notFound ∧ cut.result = .error cause))) := by
  intro whole cut
  have exchanges : (Call.execute line (.limited room cause)).exchanges host session =
      (Call.execute line {}).exchanges host session := by
    simp only [Call.exchanges, Call.answer]
    rw [session.transcribed.executeLine_session_of_limited host.transcribing room cause line]
  obtain ⟨command, redirect, understood, same⟩ | ⟨result, silent⟩ :=
    session.executeLine_cut host room cause line
  · have same : Turn.Cut room cause command.kind whole cut := same
    refine ⟨same.accepted, same.session, exchanges, same.fitting, fun more => ?_⟩
    have short := same.short more
    refine ⟨command, redirect, understood, ?_⟩
    cases kind : command.kind with
    | builtin builtin =>
        rw [kind] at short
        obtain ⟨failure, failed⟩ := short
        exact .inl ⟨builtin, failure, rfl, failed⟩
    | external program =>
        rw [kind] at short
        exact absurd short id
    | notFound =>
        rw [kind] at short
        exact .inr ⟨rfl, short⟩
  · rw [show whole = ⟨result, session, {}⟩ from silent _,
      show cut = ⟨result, session, .limited room cause⟩ from silent _]
    exact ⟨List.take_nil.symm, rfl, exchanges, fun _ => rfl,
      fun more => absurd more (Nat.not_lt_zero room)⟩

end Session

end LineShell
