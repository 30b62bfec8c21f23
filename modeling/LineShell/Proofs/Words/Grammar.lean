import LineShell.Proofs.Words.Machine
/-!
The grammar of lines. Outside quotes a run of spaces parts words; a word is a row of segments, each
of which denotes some characters. The machine reads off exactly the words that a line has by this
grammar.
-/

namespace LineShell.Words

def Escapable (c : Char) : Prop :=
  c = '\\' ∨ c = '$' ∨ c = '"' ∨ c = '\n'

/-- What is written inside double quotes, up to where `rest` follows, and what it denotes. -/
inductive DoubleBody (rest : List Char) : List Char → List Char → Prop
  | nil : DoubleBody rest [] []
  | escape {c : Char} {written denoted : List Char} (escapable : Escapable c)
      (more : DoubleBody rest written denoted) :
      DoubleBody rest ('\\' :: c :: written) (c :: denoted)
  /-- A backslash is literal where no character follows that it could escape. -/
  | literal {c : Char} {written denoted : List Char} (unclosed : c ≠ '"')
      (idle : c = '\\' → ∀ next, (written ++ rest).head? = some next → ¬ Escapable next)
      (more : DoubleBody rest written denoted) :
      DoubleBody rest (c :: written) (c :: denoted)

/-- A segment, behind which `rest` follows to the end of the line, and what it denotes. -/
inductive Segment (rest : List Char) : List Char → List Char → Prop
  | plain {c : Char} (plain : Plain c) : Segment rest [c] [c]
  | escaped (c : Char) : Segment rest ['\\', c] [c]
  | dangling (last : rest = []) : Segment rest ['\\'] []
  | single {body : List Char} (inside : '\'' ∉ body) : Segment rest ('\'' :: body ++ ['\'']) body
  | unclosedSingle {body : List Char} (inside : '\'' ∉ body) (last : rest = []) :
      Segment rest ('\'' :: body) body
  | double {body denoted : List Char} (inside : DoubleBody ('"' :: rest) body denoted) :
      Segment rest ('"' :: body ++ ['"']) denoted
  | unclosedDouble {body denoted : List Char} (inside : DoubleBody rest body denoted)
      (last : rest = []) : Segment rest ('"' :: body) denoted

inductive Segments (rest : List Char) : List Char → List Char → Prop
  | nil : Segments rest [] []
  | cons {written denoted more others : List Char} (first : Segment (more ++ rest) written denoted)
      (next : Segments rest more others) : Segments rest (written ++ more) (denoted ++ others)

/-- A line as segments and the separators between them, and what the segments between two separators
denote. A separator takes in all spaces that stand at its place. -/
inductive Reading : List Char → List (List Char) → Prop
  | last {written denoted : List Char} (word : Segments [] written denoted) :
      Reading written [denoted]
  | separated {written denoted rest : List Char} {others : List (List Char)} (more : Nat)
      (word : Segments (List.replicate (more + 1) ' ' ++ rest) written denoted)
      (maximal : rest.head? ≠ some ' ') (next : Reading rest others) :
      Reading (written ++ (List.replicate (more + 1) ' ' ++ rest)) (denoted :: others)

/-! ## The machine follows the grammar -/

namespace Machine

variable {machine : Machine}

theorem escapable_iff {c : Char} : escapable c = true ↔ Escapable c := by
  simp [escapable, Escapable, or_assoc]

theorem read_double {body denoted rest : List Char}
    (double : machine.quoting = { inDouble := true }) (inside : DoubleBody rest body denoted) :
    machine.read body rest = machine.pushAll denoted := by
  induction inside generalizing machine with
  | nil => rfl
  | @escape c written denoted escapable more ih =>
      have active : (some c).any Machine.escapable = true := escapable_iff.mpr escapable
      have stepped : (machine.step '\\' (some c)).step c (written ++ rest).head? = machine.push c := by
        rw [step_doubleBackslash double, if_pos active, step_escaped rfl]
        simp [push, double]
      rw [read_cons, read_cons, List.cons_append, List.head?_cons, stepped, pushAll_cons]
      exact @ih (machine.push c) double
  | @literal c written denoted unclosed idle more ih =>
      have stepped : machine.step c (written ++ rest).head? = machine.push c := by
        by_cases slash : c = '\\'
        · have inactive : ¬ (written ++ rest).head?.any Machine.escapable = true := by
            intro active
            obtain ⟨next, found, escapes⟩ := (Option.any_eq_true _ _).mp active
            exact idle slash next found (escapable_iff.mp escapes)
          rw [slash, step_doubleBackslash double, if_neg inactive]
        · exact step_double double _ unclosed slash
      rw [read_cons, stepped, pushAll_cons]
      exact @ih (machine.push c) double

/-- Only at the end of the line can a segment leave anything open. -/
theorem read_segment {written denoted rest : List Char} (bare : machine.quoting = {})
    (segment : Segment rest written denoted) :
    ∃ quoting, machine.read written rest = { machine.pushAll denoted with quoting } ∧
      (rest ≠ [] → quoting = {}) := by
  cases segment with
  | plain plain =>
      refine ⟨{}, ?_, fun _ => rfl⟩
      rw [read_cons, step_plain bare plain]
      exact (@with_quoting_self (machine.push _) _ bare).symm
  | escaped c =>
      refine ⟨{}, ?_, fun _ => rfl⟩
      rw [read_cons, read_cons, step_backslash bare, step_escaped rfl, pushAll_cons]
      rfl
  | dangling last =>
      refine ⟨{ escaped := true }, ?_, fun more => absurd last more⟩
      rw [read_cons, step_backslash bare]
      rfl
  | single inside =>
      refine ⟨{}, ?_, fun _ => rfl⟩
      rw [List.cons_append, read_cons, step_openSingle bare, read_append, read_single rfl inside,
        read_cons, step_closeSingle rfl]
      rfl
  | unclosedSingle inside last =>
      refine ⟨{ inSingle := true }, ?_, fun more => absurd last more⟩
      rw [read_cons, step_openSingle bare, read_single rfl inside]
      rfl
  | double inside =>
      refine ⟨{}, ?_, fun _ => rfl⟩
      rw [List.cons_append, read_cons, step_openDouble bare, read_append, List.singleton_append,
        read_double rfl inside, read_cons, step_closeDouble rfl]
      rfl
  | unclosedDouble inside last =>
      refine ⟨{ inDouble := true }, ?_, fun more => absurd last more⟩
      rw [read_cons, step_openDouble bare, read_double rfl inside]
      rfl

end Machine

theorem Segment.written_ne_nil {rest written denoted : List Char}
    (segment : Segment rest written denoted) : written ≠ [] := by
  cases segment <;> simp

theorem Segments.denoted_of_written_nil {rest denoted : List Char}
    (segments : Segments rest [] denoted) : denoted = [] := by
  generalize empty : ([] : List Char) = written at segments
  cases segments with
  | nil => rfl
  | cons first next => exact absurd (List.append_eq_nil_iff.mp empty.symm).1 first.written_ne_nil

namespace Machine

variable {machine : Machine}

theorem read_segments {written denoted rest : List Char} (bare : machine.quoting = {})
    (segments : Segments rest written denoted) :
    ∃ quoting, machine.read written rest = { machine.pushAll denoted with quoting } ∧
      (rest ≠ [] → quoting = {}) := by
  induction segments generalizing machine with
  | nil => exact ⟨{}, (with_quoting_self bare).symm, fun _ => rfl⟩
  | @cons written denoted more others first next ih =>
      obtain ⟨quoting, walked, closed⟩ := read_segment bare first
      rw [read_append, walked, pushAll_append]
      by_cases last : more ++ rest = []
      · obtain ⟨rfl, rfl⟩ := List.append_eq_nil_iff.mp last
        cases next.denoted_of_written_nil
        exact ⟨quoting, rfl, fun more => absurd rfl more⟩
      · exact @ih { machine.pushAll denoted with quoting } (closed last)

theorem read_reading {line : List Char} {denoted : List (List Char)} (bare : machine.quoting = {})
    (idle : machine.pending = []) (reading : Reading line denoted) :
    (machine.read line []).flush.emitted = machine.emitted ++ denoted.filter (· ≠ []) := by
  induction reading generalizing machine with
  | @last written denoted word =>
      obtain ⟨quoting, walked, _⟩ := read_segments bare word
      rw [walked, flush_emitted]
      simp [pushAll, buffer, idle, emitted]
  | @separated written denoted rest others more word maximal next ih =>
      obtain ⟨quoting, walked, closed⟩ := read_segments bare word
      have between : List.replicate (more + 1) ' ' ++ rest ≠ [] := by simp
      cases closed between
      rw [read_append, read_append, List.append_nil, walked, read_spaces rfl, ih (by simp) (by simp),
        flush_emitted, List.append_assoc, ← List.filter_append]
      simp [pushAll, buffer, idle, emitted]

end Machine

/-! ## Every line has a reading -/

theorem exists_singleBody (text : List Char) :
    ∃ body rest, text = body ++ rest ∧ '\'' ∉ body ∧ (rest = [] ∨ ∃ more, rest = '\'' :: more) := by
  induction text with
  | nil => exact ⟨[], [], rfl, by simp, .inl rfl⟩
  | cons c more ih =>
      by_cases quote : c = '\''
      · exact ⟨[], c :: more, rfl, by simp, .inr ⟨more, by rw [quote]⟩⟩
      · obtain ⟨body, rest, rfl, inside, ending⟩ := ih
        exact ⟨c :: body, rest, rfl, by simp [Ne.symm quote, inside], ending⟩

theorem exists_doubleBody (text : List Char) :
    ∃ written denoted rest, text = written ++ rest ∧ DoubleBody rest written denoted ∧
      (rest = [] ∨ ∃ more, rest = '"' :: more) := by
  induction size : text.length using Nat.strongRecOn generalizing text with
  | ind size ih =>
      subst size
      match text with
      | [] => exact ⟨[], [], [], rfl, .nil, .inl rfl⟩
      | c :: more =>
          by_cases quote : c = '"'
          · exact ⟨[], [], c :: more, rfl, .nil, .inr ⟨more, by rw [quote]⟩⟩
          by_cases escapes : c = '\\' ∧ ∃ next others, more = next :: others ∧ Escapable next
          · obtain ⟨rfl, next, others, rfl, escapable⟩ := escapes
            obtain ⟨written, denoted, rest, rfl, inside, ending⟩ :=
              ih others.length (by simp only [List.length_cons]; omega) others rfl
            exact ⟨'\\' :: next :: written, next :: denoted, rest, rfl, .escape escapable inside, ending⟩
          · obtain ⟨written, denoted, rest, rfl, inside, ending⟩ := ih more.length (by simp) more rfl
            refine ⟨c :: written, c :: denoted, rest, rfl, .literal quote ?_ inside, ending⟩
            intro slash next found escapable
            obtain ⟨others, split⟩ := List.head?_eq_some_iff.mp found
            exact escapes ⟨slash, next, others, split, escapable⟩

theorem exists_segment {c : Char} (more : List Char) (start : c ≠ ' ') :
    ∃ written denoted rest, c :: more = written ++ rest ∧ Segment rest written denoted := by
  by_cases slash : c = '\\'
  · subst slash
    match more with
    | [] => exact ⟨['\\'], [], [], rfl, .dangling rfl⟩
    | next :: others => exact ⟨['\\', next], [next], others, rfl, .escaped next⟩
  by_cases single : c = '\''
  · subst single
    obtain ⟨body, rest, rfl, inside, rfl | ⟨more, rfl⟩⟩ := exists_singleBody more
    · exact ⟨'\'' :: body, body, [], rfl, .unclosedSingle inside rfl⟩
    · exact ⟨'\'' :: body ++ ['\''], body, more, by simp, .single inside⟩
  by_cases double : c = '"'
  · subst double
    obtain ⟨written, denoted, rest, rfl, inside, rfl | ⟨more, rfl⟩⟩ := exists_doubleBody more
    · exact ⟨'"' :: written, denoted, [], rfl, .unclosedDouble inside rfl⟩
    · exact ⟨'"' :: written ++ ['"'], denoted, more, by simp, .double inside⟩
  · exact ⟨[c], [c], more, rfl, .plain ⟨start, slash, single, double⟩⟩

theorem exists_segments (text : List Char) :
    ∃ written denoted rest, text = written ++ rest ∧ Segments rest written denoted ∧
      (rest = [] ∨ ∃ more, rest = ' ' :: more) := by
  induction size : text.length using Nat.strongRecOn generalizing text with
  | ind size ih =>
      subst size
      match text with
      | [] => exact ⟨[], [], [], rfl, .nil, .inl rfl⟩
      | c :: more =>
          by_cases space : c = ' '
          · exact ⟨[], [], c :: more, rfl, .nil, .inr ⟨more, by rw [space]⟩⟩
          · obtain ⟨written, denoted, left, split, first⟩ := exists_segment more space
            have shorter : left.length < (c :: more).length := by
              have lengths := congrArg List.length split
              have visible := List.length_pos_iff.mpr first.written_ne_nil
              rw [List.length_append] at lengths
              omega
            obtain ⟨others, meant, rest, rfl, next, ending⟩ := ih left.length shorter left rfl
            exact ⟨written ++ others, denoted ++ meant, rest, by rw [split, List.append_assoc],
              .cons first next, ending⟩

theorem exists_separator (text : List Char) :
    ∃ count rest, text = List.replicate count ' ' ++ rest ∧ rest.head? ≠ some ' ' := by
  induction text with
  | nil => exact ⟨0, [], rfl, by simp⟩
  | cons c more ih =>
      by_cases space : c = ' '
      · obtain ⟨count, rest, rfl, maximal⟩ := ih
        exact ⟨count + 1, rest, by rw [space]; rfl, maximal⟩
      · exact ⟨0, c :: more, rfl, by simpa using space⟩

theorem exists_reading (line : List Char) : ∃ denoted, Reading line denoted := by
  induction size : line.length using Nat.strongRecOn generalizing line with
  | ind size ih =>
      subst size
      obtain ⟨written, denoted, rest, rfl, word, rfl | ⟨behind, rfl⟩⟩ := exists_segments line
      · exact ⟨[denoted], by simpa using Reading.last word⟩
      · obtain ⟨more, rest, rfl, maximal⟩ := exists_separator behind
        obtain ⟨others, next⟩ := ih rest.length (by simp; omega) rest rfl
        exact ⟨denoted :: others, .separated more word maximal next⟩

theorem ofChars_of_reading {line : List Char} {denoted : List (List Char)}
    (reading : Reading line denoted) : ofChars line = denoted.filter (· ≠ []) := by
  rw [ofChars, Machine.read_reading rfl rfl reading]
  rfl

/-- The words of a line are those of its reading, of which there is one for every line. -/
theorem ofLine_eq_iff_reading (line : String) (words : List String) :
    ofLine line = words ↔
      ∃ denoted, Reading line.toList denoted ∧
        words = (denoted.filter (· ≠ [])).map String.ofList := by
  constructor
  · rintro rfl
    obtain ⟨denoted, reading⟩ := exists_reading line.toList
    exact ⟨denoted, reading, by rw [ofLine, ofChars_of_reading reading]⟩
  · rintro ⟨denoted, reading, rfl⟩
    rw [ofLine, ofChars_of_reading reading]

end LineShell.Words
