import LineShell.Proofs.Words.Concatenation
/-!
What holds of the machine at every character of a line. An escape inside double quotes is pending only
before a character that it escapes, which no quote or backslash read on the way can undo; so at the end of
a line it is pending outside quotes or not at all.
-/

namespace LineShell.Words

namespace Quoting

variable {quoting : Quoting} {next : Option Char} (arises : quoting.Arises next)

include arises

theorem Arises.one (double : quoting.inDouble = true) (single : quoting.inSingle = true) : False := by
  cases arises <;> contradiction

theorem Arises.literal (escaped : quoting.escaped = true) : quoting.inSingle = false := by
  cases arises with
  | single => contradiction
  | _ => rfl

theorem Arises.sighted (escaped : quoting.escaped = true) (double : quoting.inDouble = true) :
    ∃ c, next = some c ∧ Escapable c := by
  cases arises with
  | doubleEscape escapable =>
      cases next with
      | none => contradiction
      | some c => exact ⟨c, rfl, Machine.escapable_iff.mp escapable⟩
  | _ => contradiction

end Quoting

namespace Machine

/-- The machine after so many steps on a line. -/
def after (steps : Nat) (line : List Char) : Machine :=
  Machine.read {} (line.take steps) (line.drop steps)

theorem after_succ {steps : Nat} {line more : List Char} {c : Char}
    (next : line.drop steps = c :: more) :
    after (steps + 1) line = (after steps line).step c more.head? := by
  have tail : line.drop (steps + 1) = more := by
    rw [← List.drop_drop, next]
    rfl
  have front : line.take (steps + 1) = line.take steps ++ [c] := by
    rw [List.take_add_one, ← List.head?_drop, next]
    rfl
  rw [after, front, tail, read_append, List.singleton_append, ← next]
  rfl

theorem after_of_length_le {steps : Nat} {line : List Char} (whole : line.length ≤ steps) :
    after steps line = Machine.read {} line [] := by
  rw [after, List.take_of_length_le whole, List.drop_of_length_le whole]

/-- What is known of a machine that has `rest` still to read. -/
structure Consistent (machine : Machine) (rest : List Char) : Prop where
  quoting : machine.quoting.Arises rest.head?
  visible : ∀ word ∈ machine.emitted, word ≠ []

theorem visible_flush {machine : Machine} (visible : ∀ word ∈ machine.emitted, word ≠ []) :
    ∀ word ∈ machine.flush.emitted, word ≠ [] := by
  intro word listed
  rw [flush_emitted] at listed
  rcases List.mem_append.mp listed with earlier | last
  · exact visible word earlier
  · simpa using (List.mem_filter.mp last).2

theorem Consistent.start (line : List Char) : Consistent {} line :=
  ⟨.bare, nofun⟩

theorem Consistent.step {machine : Machine} {c : Char} {rest : List Char}
    (consistent : machine.Consistent (c :: rest)) :
    (machine.step c rest.head?).Consistent rest := by
  refine ⟨step_arises rest.head? consistent.quoting, ?_⟩
  rcases machine.step_cases c rest.head? with ⟨-, quoting, sign⟩ | ⟨quoting, joins⟩ | ⟨-, ends⟩
  · rw [sign]
    exact consistent.visible
  · rw [joins]
    exact consistent.visible
  · rw [ends]
    exact visible_flush consistent.visible

theorem Consistent.read {machine : Machine} {stretch rest : List Char}
    (consistent : machine.Consistent (stretch ++ rest)) :
    (machine.read stretch rest).Consistent rest := by
  induction stretch generalizing machine with
  | nil => exact consistent
  | cons c more ih => exact ih consistent.step

theorem after_consistent (steps : Nat) (line : List Char) :
    (after steps line).Consistent (line.drop steps) := by
  apply Consistent.read
  rw [List.take_append_drop]
  exact .start line

/-! ## The end of a line -/

/-- Where no character follows, only a backslash outside quotes leaves an escape pending. -/
theorem step_pending_iff {machine : Machine} {c : Char} (arises : machine.quoting.Arises (some c)) :
    (machine.step c none).quoting.escaped = true ↔ machine.quoting = {} ∧ c = '\\' := by
  generalize now : machine.quoting = quoting at arises
  cases arises with
  | bare =>
      rcases Plain.or_special c with plain | rfl | rfl | rfl | rfl
      · rw [step_plain now plain]
        simp [push, now, plain.2.1]
      · rw [step_space now, flush_quoting, now]
        simp
      · rw [step_backslash now]
        simp
      · rw [step_openSingle now]
        simp
      · rw [step_openDouble now]
        simp
  | single =>
      by_cases closing : c = '\''
      · rw [closing, step_closeSingle now]
        simp
      · rw [step_single now none closing]
        simp [push, now]
  | double =>
      by_cases closing : c = '"'
      · rw [closing, step_closeDouble now]
        simp
      by_cases slash : c = '\\'
      · rw [slash, step_doubleBackslash now]
        simp [push, now]
      · rw [step_double now none closing slash]
        simp [push, now]
  | escape =>
      rw [step_escaped (by rw [now])]
      simp
  | doubleEscape escapable =>
      rw [step_escaped (by rw [now])]
      simp

end Machine

/-- A backslash behind a text that leaves nothing open is lost at the end of the line. -/
theorem read_lone_backslash {text : List Char} (closed : Closed text) :
    Machine.read {} (text ++ ['\\']) [] =
      { Machine.read {} text [] with quoting := { escaped := true } } := by
  have ahead : Machine.read {} text ['\\'] = Machine.read {} text [] := Machine.read_of_closed closed _
  rw [Machine.read_concat, ahead, Machine.step_backslash closed]

theorem pending_iff (line : List Char) :
    (Machine.read {} line []).quoting.escaped = true ↔
      ∃ text, line = text ++ ['\\'] ∧ Closed text := by
  constructor
  · intro pending
    rcases List.eq_nil_or_concat line with rfl | ⟨text, last, rfl⟩
    · contradiction
    · rw [List.concat_eq_append] at pending ⊢
      have arises : (Machine.read {} text [last]).quoting.Arises (some last) :=
        @Machine.read_arises {} text [last] .bare
      rw [Machine.read_concat] at pending
      obtain ⟨bare, rfl⟩ := (Machine.step_pending_iff arises).mp pending
      refine ⟨text, rfl, ?_⟩
      rw [Closed, Machine.read_of_closed bare]
      exact bare
  · rintro ⟨text, rfl, closed⟩
    rw [read_lone_backslash closed]

/-- At every step on a line at most one kind of quote is open, no escape is pending inside single quotes, and
one that is pending inside double quotes has before it a character that it escapes. No empty word is ever
finished, and a space that parts words leaves none begun. So at the end an escape is pending only where a
backslash outside quotes ends the line. That backslash is lost; all else that has been read into a word by
then is in the words of the line. -/
theorem after_invariant (line : List Char) :
    (∀ steps,
      let machine := Machine.after steps line
      let rest := line.drop steps
      ¬ (machine.quoting.inDouble = true ∧ machine.quoting.inSingle = true) ∧
      (machine.quoting.escaped = true → machine.quoting.inSingle = false) ∧
      (machine.quoting.escaped = true → machine.quoting.inDouble = true →
        ∃ c more, rest = c :: more ∧ Escapable c) ∧
      (∀ word ∈ machine.emitted, word ≠ []) ∧
      ∀ more, rest = ' ' :: more → machine.quoting = {} →
        (Machine.after (steps + 1) line).buffer = []) ∧
    let last := Machine.after line.length line
    ofChars line = last.emitted ++ [last.buffer].filter (· ≠ []) ∧
      (last.quoting.escaped = true ↔ ∃ text, line = text ++ ['\\'] ∧ Closed text) ∧
      (last.quoting.escaped = true → last.quoting.quoted = false) ∧
      ∀ text, line = text ++ ['\\'] → Closed text →
        last = { Machine.after text.length line with quoting := { escaped := true } } ∧
          ofChars line = ofChars text := by
  have ends : Machine.after line.length line = Machine.read {} line [] :=
    Machine.after_of_length_le (Nat.le_refl _)
  refine ⟨fun steps => ?_, ?_, ?_, ?_, ?_⟩
  · have consistent := Machine.after_consistent steps line
    have arises := consistent.quoting
    refine ⟨?_, ?_, ?_, consistent.visible, ?_⟩
    · rintro ⟨double, single⟩
      exact arises.one double single
    · exact arises.literal
    · intro escaped double
      obtain ⟨c, sight, escapable⟩ := arises.sighted escaped double
      obtain ⟨more, next⟩ := List.head?_eq_some_iff.mp sight
      exact ⟨c, more, next, escapable⟩
    · intro more next bare
      rw [Machine.after_succ next, Machine.step_space bare, Machine.buffer, Machine.flush_pending]
      rfl
  · rw [ends]
    exact Machine.flush_emitted
  · rw [ends]
    exact pending_iff line
  · rw [ends]
    intro pending
    obtain ⟨text, rfl, closed⟩ := (pending_iff line).mp pending
    rw [read_lone_backslash closed]
    rfl
  · rintro text rfl closed
    have before : Machine.after text.length (text ++ ['\\']) = Machine.read {} text [] := by
      rw [Machine.after, List.take_left, List.drop_left, Machine.read_of_closed closed]
    rw [ends, before, ofChars, read_lone_backslash closed, Machine.flush_emitted, ofChars,
      Machine.flush_emitted]
    exact ⟨rfl, rfl⟩

end LineShell.Words
