import LineShell.Console
import LineShell.Host.Native
import LineShell.Proofs.Session.Environment
import LineShell.Proofs.Session.Failing
import LineShell.Proofs.Session.History
/-!
The loop of a session as a fold: what is read runs line by line up to the first reading that ends the
session, and that is an `exit`, the end of the input or a failure to read. To a session that has been
told to end before, any line is such a reading.
-/

namespace LineShell

/-- A line that says `exit` and is no syntax error. -/
def SaysExit (line : String) : Prop :=
  ∃ operands redirect,
    CommandLine.ofWords (Words.ofLine (trimmed line)) = .ok ⟨"exit" :: operands, redirect⟩

theorem SaysExit.first_word {line first : String} {operands : List String}
    {redirect : Option Redirection} (said : SaysExit line)
    (cut : CommandLine.ofWords (Words.ofLine (trimmed line)) = .ok ⟨first :: operands, redirect⟩) :
    first = "exit" := by
  obtain ⟨_, _, said⟩ := said
  rw [cut, Except.ok.injEq, CommandLine.mk.injEq] at said
  exact List.head_eq_of_cons_eq said.1

/-- The readings that end a session, and how. -/
inductive Reading.Ends (told : Bool) : Reading → Except Failure Unit → Prop
  | exit {text : String} (leaves : told = true ∨ SaysExit text) : Ends told (.line text) (.ok ())
  | input : Ends told .endOfInput (.error Session.inputExhausted)
  | failed (reason : String) : Ends told (.failed reason) (.error (.inputClosed reason))

/-- Readings none of which ends a session. -/
def Reading.GoOn (told : Bool) (readings : List Reading) : Prop :=
  ∀ reading ∈ readings, ∀ ending, ¬ reading.Ends told ending

namespace Session

variable {Memory : Type} (host : Host Memory)

/-- What a reading makes of a session: a line runs, and all else leaves it alone. -/
def heed (shown : String) (session : Session Memory) : Reading → Session Memory
  | .line text => ((session.print shown).runLine host text).2
  | _ => session.print shown

/-! ## Lines -/

theorem kindOfLine_eq_exit_iff (session : Session Memory) (line : String) :
    session.kindOfLine line = some (.builtin .exit) ↔ SaysExit line := by
  constructor
  · intro asked
    unfold kindOfLine at asked
    cases understood : session.understand line with
    | error missing => simp [understood] at asked
    | ok result =>
        obtain ⟨_ | command, redirect⟩ := result
        · simp [understood] at asked
        · simp only [understood, Option.map_some, Option.some.injEq] at asked
          exact ⟨command.arguments, redirect, words_of_builtin understood asked⟩
  · rintro ⟨operands, redirect, cut⟩
    have cut : CommandLine.ofWords (Words.ofLine (trimmed line)) =
        .ok ⟨Builtin.exit.name :: operands, redirect⟩ := cut
    rw [kindOfLine, session.understand_of_builtin cut]
    rfl

theorem runLine_shouldExit (session : Session Memory) (line : String) :
    (session.runLine host line).2.environment.shouldExit = true ↔
      session.environment.shouldExit = true ∨ SaysExit line := by
  have follows := Event.follows_of_effect ((Call.enter line {}).event_effect host session)
  rw [← session.kindOfLine_eq_exit_iff line]
  simpa [Call.event, Call.answer, Call.kind, runLine] using follows.shouldExit

theorem runLine_ok (session : Session Memory) (line : String) :
    ∃ outcome, (session.runLine host line).1 = .ok outcome := by
  obtain ⟨result, -⟩ := session.enterLine_sameButSystem host line {}
  cases ended : ((session.remember line).executeLine host line {}).result with
  | ok outcome => exact ⟨outcome, result.trans ended⟩
  | error cause =>
      obtain ⟨command, redirect, -, fails⟩ := executeLine_fails host ended
      obtain limited | limited := fails.sink_limited <;> exact absurd rfl limited

/-! ## Readings -/

section Readings

variable (shown : String) (session : Session Memory) {reading : Reading} (rest : List Reading)

theorem runAll_line (text : String) :
    let after := session.heed host shown (.line text)
    session.runAll host shown (.line text :: rest) =
      if after.environment.shouldExit then (some (.ok ()), after)
      else after.runAll host shown rest := by
  obtain ⟨outcome, ran⟩ := (session.print shown).runLine_ok host text
  cases turn : (session.print shown).runLine host text with
  | mk result after =>
      rw [turn] at ran
      cases ran
      rw [runAll.eq_def]
      simp only [heed, turn]

theorem heed_line_shouldExit (text : String) :
    (session.heed host shown (.line text)).environment.shouldExit = true ↔
      session.environment.shouldExit = true ∨ SaysExit text := by
  have same : (session.print shown).environment = session.environment := rfl
  simp only [heed]
  rw [runLine_shouldExit, same]

theorem runAll_of_ends {ending : Except Failure Unit}
    (ends : reading.Ends session.environment.shouldExit ending) :
    session.runAll host shown (reading :: rest) = (some ending, session.heed host shown reading) := by
  cases ends with
  | @exit text leaves =>
      have told := (session.heed_line_shouldExit host shown text).mpr leaves
      rw [runAll_line, if_pos told]
  | input => rfl
  | failed reason => rfl

theorem runAll_of_goesOn (goesOn : ∀ ending, ¬ reading.Ends session.environment.shouldExit ending) :
    session.runAll host shown (reading :: rest) =
        (session.heed host shown reading).runAll host shown rest ∧
      (session.heed host shown reading).environment.shouldExit = session.environment.shouldExit := by
  cases reading with
  | interrupted => exact ⟨rfl, rfl⟩
  | endOfInput => exact absurd .input (goesOn _)
  | failed reason => exact absurd (.failed reason) (goesOn _)
  | line text =>
      have silent : ¬ (session.environment.shouldExit = true ∨ SaysExit text) :=
        fun leaves => goesOn _ (.exit leaves)
      have untold := mt (session.heed_line_shouldExit host shown text).mp silent
      have before : ¬ session.environment.shouldExit = true := fun told => silent (.inl told)
      rw [runAll_line, if_neg untold]
      exact ⟨rfl, by rw [Bool.eq_false_iff.mpr untold, Bool.eq_false_iff.mpr before]⟩

/-- Up to a reading that ends the session, the loop is a fold. -/
theorem runAll_append {before : List Reading}
    (goOn : Reading.GoOn session.environment.shouldExit before) :
    session.runAll host shown (before ++ rest) =
        (before.foldl (heed host shown) session).runAll host shown rest ∧
      (before.foldl (heed host shown) session).environment.shouldExit =
        session.environment.shouldExit := by
  induction before generalizing session with
  | nil => exact ⟨rfl, rfl⟩
  | cons reading others ih =>
      obtain ⟨step, kept⟩ := session.runAll_of_goesOn host shown (others ++ rest)
        (goOn reading List.mem_cons_self)
      have later : Reading.GoOn (session.heed host shown reading).environment.shouldExit others := by
        rw [kept]
        exact fun other listed => goOn other (List.mem_cons_of_mem _ listed)
      obtain ⟨run, told⟩ := ih (session.heed host shown reading) later
      exact ⟨step.trans run, told.trans kept⟩

theorem loop_of_ends {before : List Reading}
    (goOn : Reading.GoOn session.environment.shouldExit before) {ending : Except Failure Unit}
    (ends : reading.Ends session.environment.shouldExit ending) :
    session.loop host shown (before ++ reading :: rest) =
      (ending, (before ++ [reading]).foldl (heed host shown) session) := by
  obtain ⟨run, told⟩ := session.runAll_append host shown (reading :: rest) goOn
  rw [← told] at ends
  rw [loop, run, runAll_of_ends host shown _ rest ends, List.foldl_append]
  rfl

theorem runAll_of_goOn {readings : List Reading}
    (goOn : Reading.GoOn session.environment.shouldExit readings) :
    session.runAll host shown readings = (none, readings.foldl (heed host shown) session) := by
  obtain ⟨run, -⟩ := session.runAll_append host shown [] goOn
  rw [List.append_nil] at run
  exact run

end Readings

end Session

namespace Reading

theorem goOn_or_ends (told : Bool) (readings : List Reading) :
    GoOn told readings ∨
      ∃ before last after ending, readings = before ++ last :: after ∧ GoOn told before ∧
        last.Ends told ending := by
  induction readings with
  | nil => exact .inl nofun
  | cons reading rest ih =>
      by_cases ends : ∃ ending, reading.Ends told ending
      · obtain ⟨ending, ends⟩ := ends
        exact .inr ⟨[], reading, rest, ending, rfl, nofun, ends⟩
      · have head : ∀ ending, ¬ reading.Ends told ending := not_exists.mp ends
        obtain goOn | ⟨before, last, after, ending, split, goOn, ends⟩ := ih
        · exact .inl (List.forall_mem_cons.mpr ⟨head, goOn⟩)
        · exact .inr ⟨reading :: before, last, after, ending, by rw [split]; rfl,
            List.forall_mem_cons.mpr ⟨head, goOn⟩, ends⟩

/-- A line ends the session before anything else does. -/
def ExitFirst (told : Bool) (readings : List Reading) : Prop :=
  ∃ before text after, readings = before ++ .line text :: after ∧ GoOn told before ∧
    (told = true ∨ SaysExit text)

end Reading

/-- A session runs the lines before the first reading that ends it, and that reading too if it is a
line, each once and in order. What is read after that counts for nothing. The exit code is zero exactly
if a line has ended the session: an `exit`, or whatever line comes first to a session that has been told
to end before. It ends with the input otherwise. -/
theorem Session.loop_fold {Memory : Type} (host : Host Memory) (shown : String)
    (readings : List Reading) (session : Session Memory) :
    let told := session.environment.shouldExit
    let ended := session.loop host shown readings
    (∀ before last after ending, readings = before ++ last :: after → Reading.GoOn told before →
        last.Ends told ending →
        ended = (ending, (before ++ [last]).foldl (heed host shown) session)) ∧
      (Reading.GoOn told readings →
        ended = (.error inputExhausted, (readings.foldl (heed host shown) session).print shown)) ∧
      (Reading.ExitFirst told readings → ended.1 = .ok () ∧ (Console.conclude ended).1 = 0) ∧
      (¬ Reading.ExitFirst told readings →
        ∃ reason, ended.1 = .error (.inputClosed reason) ∧ (Console.conclude ended).1 = 1) := by
  intro told ended
  have fold : ∀ before last after ending, readings = before ++ last :: after →
      Reading.GoOn told before → last.Ends told ending →
      ended = (ending, (before ++ [last]).foldl (heed host shown) session) := by
    rintro before last after ending rfl goOn ends
    exact session.loop_of_ends host shown after goOn ends
  have exhausted : Reading.GoOn told readings →
      ended = (.error inputExhausted, (readings.foldl (heed host shown) session).print shown) := by
    intro goOn
    simp only [ended, loop, session.runAll_of_goOn host shown goOn]
  refine ⟨fold, exhausted, ?_, ?_⟩
  · rintro ⟨before, text, after, split, goOn, leaves⟩
    rw [fold before _ after _ split goOn (.exit leaves)]
    exact ⟨rfl, rfl⟩
  · intro stays
    obtain goOn | ⟨before, last, after, ending, split, goOn, ends⟩ :=
      Reading.goOn_or_ends told readings
    · rw [exhausted goOn]
      exact ⟨_, rfl, rfl⟩
    · rw [fold before last after ending split goOn ends]
      cases ends with
      | exit leaves => exact absurd ⟨before, _, after, split, goOn, leaves⟩ stays
      | input => exact ⟨_, rfl, rfl⟩
      | failed reason => exact ⟨reason, rfl, rfl⟩

/-- A session that has been told to end before its loop starts ends well after one line, whether or not
that says `exit`. -/
theorem Session.loop_ends_without_exit :
    let session : Session Unit :=
      { environment := { «variables» := [], currentDir := ⟨"/"⟩, shouldExit := true }
        world := { memory := (), system := {} } }
    let readings : List Reading := [.line "pwd", .line "echo second", .endOfInput]
    let ended := session.loop Host.native "" readings
    (∀ text, .line text ∈ readings → ¬ SaysExit text) ∧
      ended.1 = .ok () ∧ (Console.conclude ended).1 = 0 ∧ ended.2.history = ["pwd"] := by
  intro session readings ended
  have pwd : CommandLine.ofWords (Words.ofLine (trimmed "pwd")) = .ok ⟨["pwd"], none⟩ := rfl
  have echo : CommandLine.ofWords (Words.ofLine (trimmed "echo second")) =
      .ok ⟨["echo", "second"], none⟩ := rfl
  have silent : ∀ text, .line text ∈ readings → ¬ SaysExit text := by
    intro text listed said
    simp only [readings, List.mem_cons, Reading.line.injEq, reduceCtorEq, List.not_mem_nil,
      or_false] at listed
    rcases listed with rfl | rfl
    · exact absurd (said.first_word pwd) (by decide)
    · exact absurd (said.first_word echo) (by decide)
  have goOn : Reading.GoOn session.environment.shouldExit [] := nofun
  have run : ended = (.ok (), session.heed Host.native "" (.line "pwd")) :=
    session.loop_of_ends Host.native "" [.line "echo second", .endOfInput] goOn (.exit (.inl rfl))
  have remembered : (session.heed Host.native "" (.line "pwd")).history = ["pwd"] :=
    Call.answer_history Host.native (.enter "pwd" {}) (session.print "")
  rw [run]
  exact ⟨silent, rfl, rfl, remembered⟩

end LineShell
