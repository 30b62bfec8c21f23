import LineShell.Proofs.Words.Machine
/-!
The character in sight. Only a backslash inside double quotes asks for it, and it asks no more than
whether that character can be escaped. So what follows a stretch of a line matters to its last
character alone, and never to the words that the stretch has finished.
-/

namespace LineShell.Words

/-- What may be open before a character `next`, if any follows. -/
inductive Quoting.Arises (next : Option Char) : Quoting → Prop
  | bare : Arises next {}
  | single : Arises next { inSingle := true }
  | double : Arises next { inDouble := true }
  | escape : Arises next { escaped := true }
  | doubleEscape (escapable : next.any Machine.escapable = true) :
      Arises next { inDouble := true, escaped := true }

namespace Machine

variable {machine : Machine}

theorem step_sight {first second : Option Char} (c : Char)
    (same : first.any escapable = second.any escapable) :
    machine.step c first = machine.step c second := by
  unfold step backslash
  rw [same]

theorem read_sight {first second : List Char} (stretch : List Char)
    (same : first.head?.any escapable = second.head?.any escapable) :
    machine.read stretch first = machine.read stretch second := by
  induction stretch generalizing machine with
  | nil => rfl
  | cons c more ih =>
      have ahead : (more ++ first).head?.any escapable = (more ++ second).head?.any escapable := by
        cases more with
        | nil => exact same
        | cons next others => rfl
      rw [read_cons, read_cons, step_sight c ahead]
      exact ih

theorem read_concat (stretch : List Char) (last : Char) (rest : List Char) :
    machine.read (stretch ++ [last]) rest = (machine.read stretch [last]).step last rest.head? := by
  have ahead : machine.read stretch ([last] ++ rest) = machine.read stretch [last] :=
    read_sight stretch rfl
  rw [read_append, ahead]
  rfl

/-! ## What follows does not change -/

/-- Where the character in sight matters a double quote is open. -/
theorem step_eq_or_double (c : Char) (first second : Option Char) :
    machine.step c first = machine.step c second ∨
      (machine.step c first).quoting.inDouble = true ∧
        (machine.step c first).finished = (machine.step c second).finished := by
  by_cases escaped : machine.quoting.escaped = true
  · left
    rw [step_escaped escaped, step_escaped escaped]
  by_cases slash : c = '\\'
  · subst slash
    by_cases single : machine.quoting.inSingle = true
    · left
      simp [step, backslash, escaped, single]
    by_cases double : machine.quoting.inDouble = true
    · right
      simp only [step, backslash, escaped, single, double]
      by_cases active : first.any escapable = true <;>
        by_cases active' : second.any escapable = true <;> simp [active, active', push, double]
    · left
      simp [step, backslash, escaped, single, double]
  · left
    simp [step, slash]

theorem read_finished (stretch first second : List Char) :
    (machine.read stretch first).finished = (machine.read stretch second).finished := by
  rcases List.eq_nil_or_concat stretch with rfl | ⟨stretch, last, rfl⟩
  · rfl
  · rw [List.concat_eq_append, read_concat, read_concat]
    rcases step_eq_or_double last first.head? second.head? with same | ⟨_, finished⟩
    · rw [same]
    · exact finished

theorem read_of_closed {stretch first : List Char}
    (closed : (machine.read stretch first).quoting = {}) (second : List Char) :
    machine.read stretch second = machine.read stretch first := by
  rcases List.eq_nil_or_concat stretch with rfl | ⟨stretch, last, rfl⟩
  · rfl
  · rw [List.concat_eq_append, read_concat] at closed ⊢
    rw [read_concat]
    rcases step_eq_or_double last first.head? second.head? with same | ⟨double, _⟩
    · exact same.symm
    · rw [closed] at double
      contradiction

/-! ## What may be left open -/

theorem step_arises {c : Char} (next : Option Char) (arises : machine.quoting.Arises (some c)) :
    (machine.step c next).quoting.Arises next := by
  generalize now : machine.quoting = quoting at arises
  cases arises with
  | bare =>
      rcases Plain.or_special c with plain | rfl | rfl | rfl | rfl
      · rw [step_plain now plain]
        exact now ▸ .bare
      · rw [step_space now, flush_quoting]
        exact now ▸ .bare
      · rw [step_backslash now]
        exact .escape
      · rw [step_openSingle now]
        exact .single
      · rw [step_openDouble now]
        exact .double
  | single =>
      by_cases closing : c = '\''
      · rw [closing, step_closeSingle now]
        exact .bare
      · rw [step_single now next closing]
        exact now ▸ .single
  | double =>
      by_cases closing : c = '"'
      · rw [closing, step_closeDouble now]
        exact .bare
      by_cases slash : c = '\\'
      · rw [slash, step_doubleBackslash now]
        split
        · exact .doubleEscape ‹_›
        · exact now ▸ .double
      · rw [step_double now next closing slash]
        exact now ▸ .double
  | escape =>
      rw [step_escaped (by rw [now])]
      exact now ▸ .bare
  | doubleEscape escapable =>
      rw [step_escaped (by rw [now])]
      exact now ▸ .double

theorem read_arises {stretch rest : List Char}
    (arises : machine.quoting.Arises (stretch ++ rest).head?) :
    (machine.read stretch rest).quoting.Arises rest.head? := by
  induction stretch generalizing machine with
  | nil => exact arises
  | cons c more ih => exact ih (step_arises _ arises)

end Machine

end LineShell.Words
