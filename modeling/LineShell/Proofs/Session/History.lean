import LineShell.Proofs.Numeral
import LineShell.Proofs.Session.Frame
import LineShell.Proofs.Sink
/-!
The history over calls of any number, and what the builtin `history` shows of it: the lines entered,
numbered from the first, of which only the last may be asked for.
-/

namespace LineShell

/-! ## Listings -/

namespace History

/-- A line as it is listed: its number, set to the right of five columns or as wide as it is. -/
def entry (number : Nat) (line : String) : String :=
  String.ofList (List.replicate (5 - (toString number).length) ' ') ++ toString number ++ "  " ++
    line ++ "\n"

def listing (history : List String) : List String :=
  history.mapIdx fun i line => entry (i + 1) line

example : listing ["ls", "pwd"] = ["    1  ls\n", "    2  pwd\n"] := by
  decide

/-- The entries that operands ask for: all, or so many of the last as there are. -/
inductive Shows (history : List String) : List String → List String → Prop
  | all : Shows history [] (listing history)
  | last {operand : String} {count : Nat} {earlier shown : List String}
      (spells : Numeral.Spells operand count) (split : listing history = earlier ++ shown)
      (many : shown.length = min count history.length) : Shows history [operand] shown

theorem length_listing (history : List String) : (listing history).length = history.length :=
  List.length_mapIdx

theorem shows_last (history : List String) {operand : String} {count : Nat}
    (spells : Numeral.Spells operand count) :
    Shows history [operand] ((listing history).drop (history.length - count)) := by
  refine .last spells (List.take_append_drop _ _).symm ?_
  rw [List.length_drop, length_listing]
  omega

/-- Lines that are listed behind others keep the numbers they have there. -/
theorem mapIdx_drop (history : List String) (skipped : Nat) :
    (history.drop skipped).mapIdx (fun i line => Report.historyLine (skipped + i + 1) line) =
      (listing history).drop skipped := by
  have same (number : Nat) (line : String) : Report.historyLine number line = entry number line := by
    rw [Report.historyLine, Numeral.rightAligned_eq, entry]
  apply List.ext_getElem?
  intro i
  simp only [listing, List.getElem?_mapIdx, List.getElem?_drop, same, Nat.add_assoc]

theorem ofHistory_of_shows {history operands shown : List String}
    (asked : Shows history operands shown) :
    Report.ofHistory history operands = .ok { pieces := shown } := by
  cases asked with
  | all =>
      have all := mapIdx_drop history 0
      rw [List.drop_zero] at all
      simp only [Report.ofHistory, Report.historyCount, bind, Except.bind, pure, Except.pure,
        List.drop_zero, all]
  | @last operand count earlier _ spells split many =>
      have skipped : history.length - count = earlier.length := by
        have total := congrArg List.length split
        rw [length_listing, List.length_append] at total
        omega
      have read := (Numeral.readCount_eq_ok_iff operand count).mpr spells
      have kept := mapIdx_drop history (history.length - count)
      simp only [Report.ofHistory, Report.historyCount, read, bind, Except.bind, pure, Except.pure,
        kept]
      rw [skipped, split, List.drop_left]

end History

/-! ## What calls enter -/

/-- The line that a call puts into the history, if it puts one there. -/
def Call.entered : Call → Option String
  | .enter line _ => if trimmed line = "" then none else some (trimmed line)
  | _ => none

namespace Session

variable {Memory : Type} (host : Host Memory) (session : Session Memory)

theorem runProgram_history (program : Path) (arguments : List String) (output : Option OpenFile)
    (sink : Sink) :
    (session.runProgram host program arguments output sink).session.history = session.history := by
  by_cases flushed : sink.flush = .ok ()
  · rw [runProgram_of_flushed host session program arguments output flushed]
  · obtain ⟨cause, stopped⟩ := runProgram_of_unflushed host session program arguments output flushed
    rw [stopped]

theorem dispatch_history (command : Command) (redirect : Option Redirection) (sink : Sink) :
    (session.dispatch host command redirect sink).session.history = session.history := by
  cases kind : command.kind with
  | notFound =>
      exact (dispatch_sameButSystem host redirect sink (by simp [kind]) (by simp [kind])
        (by simp [kind])).history
  | external program =>
      by_cases ready : ∃ output, session.Delivers redirect output
      · obtain ⟨output, delivers⟩ := ready
        obtain ⟨opened, same, runs⟩ :=
          dispatch_external_of_delivers host redirect sink kind delivers
        rw [runs, runProgram_history, same.history]
      · obtain ⟨failure, stayed⟩ :=
          dispatch_external_of_shut host redirect sink kind (not_exists.mp ready)
        rw [stayed]
  | builtin builtin =>
      cases builtin with
      | cd =>
          rw [dispatch_cd_session host redirect sink kind]
          obtain ⟨_, stayed⟩ | ⟨_, -, ⟨_, -, gone⟩ | ⟨_, _, _, -, refused⟩⟩ :=
            session.cd_cases host command.arguments
          · rw [stayed]
          · rw [gone]
          · rw [refused]
      | exit => rw [dispatch_exit host redirect sink kind]; rfl
      | _ =>
          exact (dispatch_sameButSystem host redirect sink (by simp [kind]) (by simp [kind])
            (by simp [kind])).history

theorem executeLine_history (line : String) (sink : Sink) :
    (session.executeLine host line sink).session.history = session.history := by
  unfold executeLine
  cases session.understand line with
  | error missing => rfl
  | ok asked =>
      obtain ⟨_ | command, redirect⟩ := asked
      · rfl
      · exact session.dispatch_history host command redirect sink

theorem remember_history (line : String) (stdout : Sink) :
    (session.remember line).history =
      session.history ++ ((Call.enter line stdout).entered).toList := by
  unfold remember Call.entered
  by_cases blank : trimmed line = ""
  · simp [blank]
  · simp [blank]

end Session

variable {Memory : Type} (host : Host Memory)

theorem Call.answer_history (call : Call) (session : Session Memory) :
    (call.answer host session).2.history = session.history ++ call.entered.toList := by
  cases call with simp only [Call.answer]
  | execute line sink =>
      have kept := session.executeLine_history host line sink
      simpa only [Call.entered, Option.toList_none, List.append_nil] using kept
  | dispatch command redirect sink =>
      have kept := session.dispatch_history host command redirect sink
      simpa only [Call.entered, Option.toList_none, List.append_nil] using kept
  | enter line stdout =>
      obtain ⟨-, same⟩ := session.enterLine_sameButSystem host line stdout
      calc
        (session.enterLine host line stdout).2.history =
            ((session.remember line).executeLine host line stdout).session.history := same.history
        _ = (session.remember line).history := (session.remember line).executeLine_history host line stdout
        _ = session.history ++ (Call.enter line stdout).entered.toList :=
          session.remember_history line stdout

theorem play_last_history (calls : List Call) (session : Session Memory) :
    (play host calls session).2.history = session.history ++ calls.filterMap Call.entered := by
  induction calls generalizing session with
  | nil => exact (List.append_nil _).symm
  | cons call rest ih =>
      rw [show (play host (call :: rest) session).2 = (play host rest (call.answer host session).2).2
        from rfl, ih, call.answer_history host session, List.append_assoc]
      cases entered : call.entered <;> simp [entered]

/-! ## Showing the history -/

namespace Session

variable (session : Session Memory) {line : String} {operands shown : List String}
  {redirect : Option Redirection}
  (cut : CommandLine.ofWords (Words.ofLine (trimmed line)) = .ok ⟨"history" :: operands, redirect⟩)

include cut

theorem executeLine_shows (asked : History.Shows session.history operands shown) {sink : Sink}
    (takes : sink.TakesAll) :
    session.executeLine host line sink =
      ⟨.ok .success, session, { sink with accepted := sink.accepted ++ utf8 (String.join shown) }⟩ := by
  have runs := session.executeLine_of_builtin host sink (show Builtin.history ≠ .echo by decide) cut
  rw [runs]
  simp only [runBuiltin, perform, History.ofHistory_of_shows asked,
    Builtin.deliver_of_takesAll _ _ takes]
  rfl

theorem trimmed_ne_of_words : trimmed line ≠ "" := by
  intro blank
  have wordless : CommandLine.ofWords (Words.ofLine "") = .ok ⟨[], none⟩ := rfl
  rw [blank, wordless] at cut
  cases cut

theorem runLine_shows (asked : History.Shows (session.history ++ [trimmed line]) operands shown) :
    session.runLine host line =
      (.ok .success,
        { session with
          history := session.history ++ [trimmed line]
          world := { session.world with
            system := session.system.writeStdout (utf8 (String.join shown)) } }) := by
  have remembered : session.remember line =
      { session with history := session.history ++ [trimmed line] } := by
    rw [remember, if_neg (trimmed_ne_of_words cut)]
  rw [runLine, enterLine, remembered,
    executeLine_shows host _ cut asked Sink.TakesAll.fresh]
  rfl

end Session

/-- Through calls of any number, whatever they come to, the history is made of the lines entered that are
not blank, trimmed and in order. At any time `history` shows the entries that its operands ask for: all
of them, or as many of the last as a count says, with the same numbers. Where it is itself a line that is
entered, it is the last of those that it shows. -/
theorem play_history (host : Host Memory) (calls : List Call) (session : Session Memory) :
    let last := (play host calls session).2
    last.history = session.history ++ calls.filterMap Call.entered ∧
      (∀ line sink, (last.executeLine host line sink).session.history = last.history) ∧
      (∀ command redirect sink,
        (last.dispatch host command redirect sink).session.history = last.history) ∧
      (∀ line operands redirect shown,
        CommandLine.ofWords (Words.ofLine (trimmed line)) = .ok ⟨"history" :: operands, redirect⟩ →
        (History.Shows last.history operands shown → ∀ sink : Sink, sink.TakesAll →
          last.executeLine host line sink = ⟨.ok .success, last,
            { sink with accepted := sink.accepted ++ utf8 (String.join shown) }⟩) ∧
        (History.Shows (last.history ++ [trimmed line]) operands shown →
          last.runLine host line = (.ok .success,
            { last with
              history := last.history ++ [trimmed line]
              world := { last.world with
                system := last.system.writeStdout (utf8 (String.join shown)) } }))) ∧
      ∀ count < Nat.pow 2 64, ∃ shown, History.Shows last.history [toString count] shown := by
  intro last
  refine ⟨play_last_history host calls session, last.executeLine_history host,
    last.dispatch_history host, ?_, ?_⟩
  · intro line operands redirect shown cut
    exact ⟨fun asked _ takes => last.executeLine_shows host cut asked takes,
      last.runLine_shows host cut⟩
  · intro count fits
    exact ⟨_, History.shows_last last.history (Numeral.spells_toString fits)⟩

end LineShell
