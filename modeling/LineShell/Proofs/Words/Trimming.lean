import LineShell.Proofs.Words.Concatenation
import LineShell.Text.WhiteSpace
/-!
Lines without the spaces at their ends. Spaces before a line never matter to its words. Spaces behind it
do where the line leaves something open: inside quotes all of them join the last word, and behind a
backslash the first of them does.
-/

namespace LineShell

open Text

/-- White space stands at the ends of a text as spaces only. -/
def SpacesAtEnds (text : List Char) : Prop :=
  (text.takeWhile isWhiteSpace).all (· = ' ') ∧ (text.reverse.takeWhile isWhiteSpace).all (· = ' ')
deriving Decidable

theorem mem_takeWhile_append {p : Char → Bool} {c : Char} {first : List Char} (second : List Char)
    (listed : c ∈ first.takeWhile p) : c ∈ (first ++ second).takeWhile p := by
  rw [List.takeWhile_append]
  split
  · exact List.mem_append_left _ ((List.takeWhile_prefix p).mem listed)
  · exact listed

theorem SpacesAtEnds.split {text : List Char} (spaced : SpacesAtEnds text) :
    ∃ before after, text = List.replicate before ' ' ++ (trim text ++ List.replicate after ' ') := by
  have front : ∀ c ∈ text.takeWhile isWhiteSpace, c = ' ' := by simpa using spaced.1
  have back : ∀ c ∈ text.reverse.takeWhile isWhiteSpace, c = ' ' := by simpa using spaced.2
  let lead := text.takeWhile isWhiteSpace
  let trail := ((trimStart text).reverse.takeWhile isWhiteSpace).reverse
  have behind : ∀ c ∈ trail, c = ' ' := by
    intro c listed
    have whole := mem_takeWhile_append lead.reverse (List.mem_reverse.mp listed)
    rw [← List.reverse_append, trimStart_split] at whole
    exact back c whole
  refine ⟨lead.length, trail.length, ?_⟩
  rw [← List.eq_replicate_of_mem front, ← List.eq_replicate_of_mem behind, trim, trimEnd_split,
    trimStart_split]

namespace Words

/-- How many of the spaces behind a text join its last word, by what the text leaves open. -/
def Quoting.takes (quoting : Quoting) (count : Nat) : Nat :=
  if quoting.quoted then count else if quoting.escaped then min 1 count else 0

theorem Quoting.takes_eq_zero_iff {quoting : Quoting} (arises : quoting.Arises none) (count : Nat) :
    quoting.takes count = 0 ↔ count = 0 ∨ quoting = {} := by
  cases arises with
  | bare => simp [takes, quoted]
  | single => simp [takes, quoted]
  | double => simp [takes, quoted]
  | escape =>
      simp only [takes, quoted, Bool.or_self, Bool.false_eq_true, if_false, if_true]
      constructor
      · intro none
        left
        omega
      · rintro (none | same)
        · omega
        · contradiction
  | doubleEscape escapable => simp at escapable

namespace Machine

variable {machine : Machine}

theorem read_spaces_quoted (quoted : machine.quoting.quoted = true)
    (unescaped : machine.quoting.escaped = false) (count : Nat) (rest : List Char) :
    machine.read (List.replicate count ' ') rest = machine.pushAll (List.replicate count ' ') := by
  induction count generalizing machine with
  | zero => rfl
  | succ count ih =>
      have joins (next : Option Char) : machine.step ' ' next = machine.push ' ' := by
        simp [step, unescaped, quoted]
      rw [List.replicate_succ, read_cons, joins, pushAll_cons]
      exact @ih (machine.push ' ') quoted unescaped

theorem flush_read_spaces (bare : machine.quoting = {}) (count : Nat) :
    (machine.read (List.replicate count ' ') []).flush = machine.flush := by
  cases count with
  | zero => rfl
  | succ count => rw [read_spaces bare, flush_of_pending_nil flush_pending]

theorem flush_pushAll_emitted (quoting : Quoting) (cs : List Char) :
    ({ machine.pushAll cs with quoting }).flush.emitted =
      machine.emitted ++ [machine.buffer ++ cs].filter (· ≠ []) := by
  rw [flush_emitted]
  simp [emitted, buffer, pushAll]

theorem read_spaces_takes (arises : machine.quoting.Arises none) (count : Nat) :
    (machine.read (List.replicate count ' ') []).flush.emitted =
      machine.emitted ++
        [machine.buffer ++ List.replicate (machine.quoting.takes count) ' '].filter (· ≠ []) := by
  generalize now : machine.quoting = quoting at arises
  cases arises with
  | bare =>
      rw [flush_read_spaces now, flush_emitted]
      simp [Quoting.takes, Quoting.quoted]
  | single =>
      rw [read_spaces_quoted (by rw [now]; rfl) (by rw [now])]
      exact flush_pushAll_emitted machine.quoting (List.replicate count ' ')
  | double =>
      rw [read_spaces_quoted (by rw [now]; rfl) (by rw [now])]
      exact flush_pushAll_emitted machine.quoting (List.replicate count ' ')
  | escape =>
      cases count with
      | zero =>
          rw [List.replicate_zero, read_nil, flush_emitted]
          simp [Quoting.takes, Quoting.quoted]
      | succ count =>
          rw [List.replicate_succ, read_cons, step_escaped (by rw [now]), flush_read_spaces (by rw [now])]
          exact flush_pushAll_emitted {} [' ']
  -- Nothing is in sight that a backslash inside double quotes could escape.
  | doubleEscape escapable => simp at escapable

end Machine

theorem ofChars_append_spaces_eq (text : List Char) (count : Nat) :
    let machine := Machine.read {} text []
    ofChars (text ++ List.replicate count ' ') = machine.emitted ++
      [machine.buffer ++ List.replicate (machine.quoting.takes count) ' '].filter (· ≠ []) := by
  have ahead : Machine.read {} text (List.replicate count ' ') = Machine.read {} text [] :=
    Machine.read_sight text (by cases count <;> rfl)
  have arises : (Machine.read {} text []).quoting.Arises none :=
    @Machine.read_arises {} text [] .bare
  rw [ofChars, Machine.read_append, List.append_nil, ahead, Machine.read_spaces_takes arises]

/-- No space ends a text, or nothing is open where the spaces at its end begin. -/
def EndsFreely (text : List Char) : Prop :=
  text.getLast? = some ' ' → Closed (trim text)
deriving Decidable

theorem endsFreely_iff {text : List Char} {before after : Nat}
    (split : text = List.replicate before ' ' ++ (trim text ++ List.replicate after ' ')) :
    EndsFreely text ↔ after = 0 ∨ Closed (trim text) := by
  constructor
  · intro free
    cases after with
    | zero => exact .inl rfl
    | succ after =>
        right
        apply free
        rw [split, List.replicate_succ', ← List.append_assoc, ← List.append_assoc,
          List.getLast?_concat]
  · rintro (rfl | closed) last
    · cases ending : (trim text).getLast? with
      | none =>
          rw [List.getLast?_eq_none_iff.mp ending]
          exact closed_nil
      | some c =>
          rw [split, List.replicate_zero, List.append_nil, List.getLast?_append, ending,
            Option.some_or] at last
          exact absurd (visible_of_getLast?_trim (ending.trans last)) (by decide)
    · exact closed

/-- What trimming does to the words of a text: the last one loses the spaces that joined it. -/
theorem ofChars_trim {text : List Char} (spaced : SpacesAtEnds text) :
    ∃ words word count, (count = 0 ↔ EndsFreely text) ∧
      ofChars text = words ++ [word ++ List.replicate count ' '].filter (· ≠ []) ∧
      ofChars (trim text) = words ++ [word].filter (· ≠ []) := by
  obtain ⟨before, after, split⟩ := spaced.split
  have arises : (Machine.read {} (trim text) []).quoting.Arises none :=
    @Machine.read_arises {} (trim text) [] .bare
  refine ⟨(Machine.read {} (trim text) []).emitted, (Machine.read {} (trim text) []).buffer,
    (Machine.read {} (trim text) []).quoting.takes after, ?_, ?_, ?_⟩
  · rw [Quoting.takes_eq_zero_iff arises, endsFreely_iff split]
    rfl
  · have led := (congrArg ofChars split).trans (ofChars_spaces_append before _)
    exact led.trans (ofChars_append_spaces_eq (trim text) after)
  · exact Machine.flush_emitted

end Words

end LineShell
