import LineShell.Proofs.Session.History
import LineShell.Proofs.Session.Naming
/-!
What the words behind the name of a builtin do. They go through a reader of command lines that knows options,
but behind a word that ends these; so every word is an operand, whatever it looks like, and what a builtin
does with its operands is all that can come of them.
-/

namespace LineShell

/-! ## Reading words -/

/-- What a reader of command lines has to say in place of operands. -/
structure Notice where
  text : String
  /-- The text tells how a command is used, which somebody asked for. -/
  isUsage : Bool := false
deriving DecidableEq, Repr

abbrev WordReader := List String → Except Notice (List String)

namespace WordReader

/-- Behind the word that ends the options a reader takes every word for an operand. -/
def EndsOptions (reader : WordReader) : Prop :=
  ∀ words, reader ("--" :: words) = .ok words

/-- A reader for commands that have no options but the question how they are used. -/
def questioning : WordReader
  | [] => .ok []
  | "--" :: words => .ok words
  | word :: rest =>
      if word = "help" ∨ word = "--help" then .error { text := "Usage\n", isUsage := true }
      else if word.toList.head? = some '-' then .error { text := s!"Unrecognized argument: {word}\n" }
      else (questioning rest).map (word :: ·)

theorem questioning_endsOptions : questioning.EndsOptions :=
  fun _ => rfl

end WordReader

/-- The operands that words make for a builtin. Only `echo` looks at its words by itself. -/
def Builtin.readOperands (builtin : Builtin) (reader : WordReader) (words : List String) :
    Except Notice (List String) :=
  match builtin with
  | .echo => .ok words
  | _ => reader ("--" :: words)

namespace Session

variable {Memory : Type} (host : Host Memory) (session : Session Memory)

/-- Runs a builtin on the operands that a reader makes of words, or says what the reader has to say. -/
def invoke (reader : WordReader) (builtin : Builtin) (words : List String) (sink : Sink) :
    Turn Memory :=
  match builtin.readOperands reader words with
  | .ok operands => session.runBuiltin host builtin operands sink
  | .error notice =>
      if notice.isUsage then
        match sink.write (utf8 notice.text) with
        | (.error cause, sink) => ⟨.ok (.failed (.output (some builtin.name) cause)), session, sink⟩
        | (.ok (), sink) => ⟨.ok .success, session, sink⟩
      else
        let message := builtin.name ++ ": " ++ trimmedEnd notice.text
        ⟨.ok (.failed (.output none (.other message))), session, sink⟩

theorem invoke_eq_runBuiltin {reader : WordReader} (ends : reader.EndsOptions) (builtin : Builtin)
    (words : List String) (sink : Sink) :
    session.invoke host reader builtin words sink = session.runBuiltin host builtin words sink := by
  have read : builtin.readOperands reader words = .ok words := by
    cases builtin with
    | echo => rfl
    | _ => exact ends words
  simp only [invoke, read]

end Session

/-! ## What operands come to -/

/-- What `echo` writes of its operands. -/
def echoed (words : List String) : String :=
  if words.head? = some "-n" then " ".intercalate words.tail else " ".intercalate words ++ "\n"

/-- Words that `history` does not take: more than one, or one that is no count. -/
def Uncountable (words : List String) : Prop :=
  2 ≤ words.length ∨ ∃ word, words = [word] ∧ ¬ ∃ count, Numeral.Spells word count

namespace Report

theorem ofEcho_text (words : List String) : (ofEcho words).text = echoed words := by
  unfold ofEcho echoed
  split
  · simp [Report.text]
  · next other =>
      have plain : words.head? ≠ some "-n" := by
        intro flag
        obtain ⟨rest, same⟩ := List.head?_eq_some_iff.mp flag
        exact other rest same
      simp [Report.text, plain]

theorem historyCount_eq_error_iff (words : List String) :
    (∃ failure, historyCount words = .error failure) ↔ Uncountable words := by
  cases words with
  | nil => simp [historyCount, Uncountable]
  | cons word rest =>
      cases read : Numeral.readCount word.toList with
      | error cause =>
          have spelled (count : Nat) : ¬ Numeral.Spells word count := by
            rw [← Numeral.readCount_eq_ok_iff, read]
            simp
          cases rest <;> simp [historyCount, Uncountable, read, spelled]
      | ok count =>
          have spelled := (Numeral.readCount_eq_ok_iff word count).mp read
          cases rest with
          | nil => simpa [historyCount, Uncountable, read] using ⟨count, spelled⟩
          | cons surplus others => simp [historyCount, Uncountable, read]

theorem ofHistory_of_uncountable (history : List String) {words : List String}
    (uncountable : Uncountable words) : ∃ failure, ofHistory history words = .error failure := by
  obtain ⟨failure, faulty⟩ := (historyCount_eq_error_iff words).mpr uncountable
  exact ⟨failure, by simp only [ofHistory, faulty, bind, Except.bind]⟩

theorem ofHistory_of_countable (history : List String) {words : List String}
    (countable : ¬ Uncountable words) :
    ∃ report, ofHistory history words = .ok report ∧ report.status = 0 := by
  cases read : historyCount words with
  | error failure => exact absurd ((historyCount_eq_error_iff words).mp ⟨failure, read⟩) countable
  | ok count =>
      simp only [ofHistory, read, bind, Except.bind, pure, Except.pure]
      exact ⟨_, rfl, rfl⟩

end Report

namespace Session

variable {Memory : Type} (host : Host Memory) (session : Session Memory)

theorem cdTarget_congr (environment : Environment) {words others : List String}
    (same : words.head? = others.head?) :
    cdTarget environment words = cdTarget environment others := by
  cases words with
  | nil =>
      cases others with
      | nil => rfl
      | cons other rest => contradiction
  | cons word rest =>
      cases others with
      | nil => contradiction
      | cons other others =>
          obtain rfl : word = other := Option.some.inj same
          by_cases home : word = "~"
          · subst home
            rfl
          · simp [cdTarget]

theorem cd_congr {words others : List String} (same : words.head? = others.head?) :
    session.cd host words = session.cd host others := by
  rw [cd, cd, cdTarget_congr session.environment same]

/-- Where a builtin has something to say, its text is what is written. -/
theorem runBuiltin_of_report {builtin : Builtin} {words : List String} {report : Report}
    {after : Session Memory} (performed : session.perform host builtin words = (.ok report, after))
    (sink : Sink) :
    session.runBuiltin host builtin words sink =
      ⟨.ok (builtin.deliver report sink).1, after, (builtin.deliver report sink).2⟩ := by
  simp only [runBuiltin, performed]

end Session

theorem Builtin.deliver_sink (builtin : Builtin) (report : Report) (sink : Sink) :
    (builtin.deliver report sink).2 = (sink.write (utf8 report.text)).2 := by
  unfold deliver
  rw [Report.writeAll_pieces]
  rcases sink.write (utf8 report.text) with ⟨_ | _, left⟩
  · rfl
  · dsimp only
    split
    · split <;> rfl
    · rfl

namespace Session

section Builtins

variable {Memory : Type} (host : Host Memory) (session : Session Memory) (sink : Sink)

theorem runBuiltin_type {names : List String} (named : names ≠ []) :
    let turn := session.runBuiltin host .type names sink
    let lines := names.map fun name => (session.meaning name).announcement name
    turn.session = session ∧ turn.sink = (sink.write (utf8 (String.join lines))).2 := by
  have told := Report.ofType_of_named session.system session.environment named
  have performed : session.perform host .type names = (_, session) := Prod.ext told rfl
  rw [runBuiltin_of_report host session performed]
  exact ⟨rfl, Builtin.deliver_sink ..⟩

theorem runBuiltin_echo (words : List String) :
    let turn := session.runBuiltin host .echo words sink
    turn.session = session ∧ turn.sink = (sink.write (utf8 (echoed words))).2 ∧
      (sink.TakesAll → turn.result = .ok .success) := by
  have performed : session.perform host .echo words = (.ok (.ofEcho words), session) := rfl
  rw [runBuiltin_of_report host session performed, ← Report.ofEcho_text]
  refine ⟨rfl, Builtin.deliver_sink .., fun takes => ?_⟩
  rw [Builtin.deliver_of_takesAll _ _ takes, Report.ofEcho_status]
  rfl

theorem runBuiltin_history_of_uncountable {words : List String} (uncountable : Uncountable words) :
    ∃ failure, session.runBuiltin host .history words sink =
      ⟨.ok { status := 1, diagnostic := some failure }, session, sink⟩ := by
  obtain ⟨failure, faulty⟩ := Report.ofHistory_of_uncountable session.history uncountable
  have performed : session.perform host .history words = (_, session) := Prod.ext faulty rfl
  refine ⟨failure, ?_⟩
  simp only [runBuiltin, performed]
  rfl

theorem runBuiltin_history_of_countable {words : List String} (countable : ¬ Uncountable words) :
    (∃ report, session.perform host .history words = (.ok report, session)) ∧
      (sink.TakesAll → (session.runBuiltin host .history words sink).result = .ok .success) := by
  obtain ⟨report, listed, status⟩ := Report.ofHistory_of_countable session.history countable
  have performed : session.perform host .history words = (_, session) := Prod.ext listed rfl
  refine ⟨⟨report, performed⟩, fun takes => ?_⟩
  rw [runBuiltin_of_report host session performed, Builtin.deliver_of_takesAll _ _ takes, status]
  rfl

end Builtins

variable {Memory : Type}

/-- Words behind the name of a builtin are operands, whatever they look like and wherever they stand. No
builtin says what a reader of command lines has to say. `pwd` and `exit` take no notice of them, and `cd` of
none but the first; `type` tells of each in turn; `echo` writes them on one line, but for a single `-n` in
front, which leaves the line open, and so it does to the file of a redirection; and `history` takes none or
one that is a count, and rejects all others before it does anything. -/
theorem words_are_operands {reader : WordReader} (ends : reader.EndsOptions) (host : Host Memory)
    (session : Session Memory) (redirect : Option Redirection) (sink : Sink) :
    let run (builtin : Builtin) (words : List String) : Turn Memory :=
      session.dispatch host ⟨.builtin builtin, builtin.name, words⟩ redirect sink
    (∀ builtin words, builtin.readOperands reader words = .ok words ∧
      session.invoke host reader builtin words sink = session.runBuiltin host builtin words sink ∧
      (builtin ≠ .echo → run builtin words = session.runBuiltin host builtin words sink)) ∧
    (∀ words others, run .pwd words = run .pwd others ∧ run .exit words = run .exit others) ∧
    (∀ words others, words.head? = others.head? → run .cd words = run .cd others) ∧
    run .type [] = ⟨.ok { status := 1, diagnostic := some .missingOperand }, session, sink⟩ ∧
    (∀ names, names ≠ [] →
      let lines := names.map fun name => (session.meaning name).announcement name
      (run .type names).session = session ∧
        (run .type names).sink = (sink.write (utf8 (String.join lines))).2) ∧
    (∀ words,
      let turn := session.runBuiltin host .echo words sink
      (redirect = none → run .echo words = turn) ∧ turn.session = session ∧
        turn.sink = (sink.write (utf8 (echoed words))).2 ∧
        (sink.TakesAll → turn.result = .ok .success)) ∧
    (∀ words wanted file opened mode left, redirect = some wanted →
      session.openRedirect wanted = .ok (file, opened) →
      opened.system.view.node? file.location = some (.file mode left) →
      ∃ system, run .echo words = ⟨.ok .success, opened.withSystem system, sink⟩ ∧
        system.view = opened.system.view.put file.location (.file mode (left ++ utf8 (echoed words)))) ∧
    ∀ words,
      (Uncountable words → ∃ failure,
        run .history words = ⟨.ok { status := 1, diagnostic := some failure }, session, sink⟩) ∧
      (¬ Uncountable words →
        (∃ report, session.perform host .history words = (.ok report, session)) ∧
          (sink.TakesAll → (run .history words).result = .ok .success)) := by
  intro run
  have runs (builtin : Builtin) (words : List String) (deaf : builtin ≠ .echo) :
      run builtin words = session.runBuiltin host builtin words sink :=
    dispatch_builtin host redirect sink rfl deaf
  refine ⟨fun builtin words => ⟨?_, session.invoke_eq_runBuiltin host ends builtin words sink,
    runs builtin words⟩, fun words others => ⟨?_, ?_⟩, ?_, ?_, ?_, ?_, ?_, ?_⟩
  · cases builtin with
    | echo => rfl
    | _ => exact ends words
  · rw [runs .pwd words (by decide), runs .pwd others (by decide)]
    rfl
  · rw [runs .exit words (by decide), runs .exit others (by decide)]
    rfl
  · intro words others same
    rw [runs .cd words (by decide), runs .cd others (by decide)]
    simp only [runBuiltin, perform, cd_congr host session same]
  · rw [runs .type [] (by decide)]
    rfl
  · intro names named lines
    rw [runs .type names (by decide)]
    exact session.runBuiltin_type host sink named
  · intro words turn
    refine ⟨?_, session.runBuiltin_echo host sink words⟩
    rintro rfl
    rfl
  · rintro words wanted file opened mode left rfl found regular
    rw [← Report.ofEcho_text]
    exact dispatch_echo_file host sink (show Command.kind ⟨.builtin .echo, _, words⟩ = _ from rfl) found regular
  · intro words
    rw [runs .history words (by decide)]
    exact ⟨session.runBuiltin_history_of_uncountable host sink,
      session.runBuiltin_history_of_countable host sink⟩

theorem words_are_operands_help :
    let host := Host.scripted {}
    let session : Session Unit :=
      { environment := { «variables» := [], currentDir := ⟨"/"⟩ }, world := { memory := (), system := {} } }
    let run (builtin : Builtin) (words : List String) : Turn Unit :=
      session.dispatch host ⟨.builtin builtin, builtin.name, words⟩ none {}
    WordReader.questioning ["--help"] = .error { text := "Usage\n", isUsage := true } ∧
      session.invoke host .questioning .pwd ["--help", "-x"] {} =
        session.runBuiltin host .pwd ["--help", "-x"] {} ∧
      run .pwd ["--help", "-x"] = run .pwd [] ∧
      (run .echo ["-n", "--help", "-n"]).sink = { accepted := utf8 "--help -n" } ∧
      (∃ failure, run .history ["--", "3"] =
        ⟨.ok { status := 1, diagnostic := some failure }, session, {}⟩) ∧
      (run .history ["+3"]).result = .ok .success := by
  intro host session run
  obtain ⟨read, deaf, -, -, -, prints, -, lists⟩ :=
    words_are_operands WordReader.questioning_endsOptions host session none {}
  obtain ⟨-, silent, -⟩ := read .pwd ["--help", "-x"]
  obtain ⟨pwd, -⟩ := deaf ["--help", "-x"] []
  obtain ⟨direct, -, written, -⟩ := prints ["-n", "--help", "-n"]
  obtain ⟨rejects, -⟩ := lists ["--", "3"]
  obtain ⟨-, accepts⟩ := lists ["+3"]
  have three : ¬ Uncountable ["+3"] := by
    rintro (many | ⟨word, same, spelled⟩)
    · contradiction
    · cases same
      have digits : ∀ c ∈ ['3'], c.isDigit = true := by
        intro c listed
        rw [List.mem_singleton.mp listed]
        rfl
      exact spelled ⟨3, ['3'], .inr rfl, by decide, digits, by decide, by decide⟩
  refine ⟨rfl, silent, pwd, ?_, rejects (.inl (by decide)), (accepts three).2 .fresh⟩
  have shown : echoed ["-n", "--help", "-n"] = "--help -n" := by decide
  rw [show run .echo _ = _ from direct rfl, written, shown]
  rfl

end Session

end LineShell
