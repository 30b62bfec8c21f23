import LineShell.Words
/-!
What the machine does with stretches of a line, told by what they stand in: outside quotes, inside
quotes of either kind, or at a run of spaces.
-/

namespace LineShell.Words

/-- A character that stands for itself outside quotes. -/
def Plain (c : Char) : Prop :=
  c ≠ ' ' ∧ c ≠ '\\' ∧ c ≠ '\'' ∧ c ≠ '"'
deriving Decidable

theorem Plain.or_special (c : Char) :
    Plain c ∨ c = ' ' ∨ c = '\\' ∨ c = '\'' ∨ c = '"' := by
  by_cases special : c = ' ' ∨ c = '\\' ∨ c = '\'' ∨ c = '"'
  · exact .inr special
  · simp only [not_or] at special
    exact .inl special

namespace Machine

variable {machine : Machine}

def pushAll (machine : Machine) (cs : List Char) : Machine :=
  { machine with pending := cs.reverse ++ machine.pending }

theorem with_quoting_self {quoting : Quoting} (same : machine.quoting = quoting) :
    { machine with quoting } = machine := by
  cases same
  rfl

theorem pushAll_cons (c : Char) (cs : List Char) :
    machine.pushAll (c :: cs) = (machine.push c).pushAll cs := by
  simp [push, pushAll]

theorem pushAll_append (first second : List Char) :
    machine.pushAll (first ++ second) = (machine.pushAll first).pushAll second := by
  simp [pushAll]

@[simp] theorem read_nil (rest : List Char) : machine.read [] rest = machine := rfl

theorem read_cons (c : Char) (more rest : List Char) :
    machine.read (c :: more) rest = (machine.step c (more ++ rest).head?).read more rest := rfl

/-! ## Steps outside quotes -/

section Bare

variable (bare : machine.quoting = {})

include bare

theorem step_plain {c : Char} {next : Option Char} (plain : Plain c) :
    machine.step c next = machine.push c := by
  obtain ⟨space, slash, single, double⟩ := plain
  simp [step, bare, space, slash, single, double]

theorem step_backslash (next : Option Char) :
    machine.step '\\' next = { machine with quoting := { escaped := true } } := by
  simp [step, backslash, bare]

theorem step_openSingle (next : Option Char) :
    machine.step '\'' next = { machine with quoting := { inSingle := true } } := by
  simp [step, bare]

theorem step_openDouble (next : Option Char) :
    machine.step '"' next = { machine with quoting := { inDouble := true } } := by
  simp [step, bare]

theorem step_space (next : Option Char) : machine.step ' ' next = machine.flush := by
  simp [step, bare, Quoting.quoted]

end Bare

theorem step_escaped (escaped : machine.quoting.escaped = true) (c : Char) (next : Option Char) :
    machine.step c next =
      { machine.push c with quoting := { machine.quoting with escaped := false } } := by
  simp [step, escaped]

/-! ## Inside single quotes -/

theorem step_single (single : machine.quoting = { inSingle := true }) {c : Char}
    (next : Option Char) (literal : c ≠ '\'') : machine.step c next = machine.push c := by
  by_cases slash : c = '\\'
  · simp [step, backslash, single, slash]
  · simp [step, single, slash, literal, Quoting.quoted]

theorem step_closeSingle (single : machine.quoting = { inSingle := true }) (next : Option Char) :
    machine.step '\'' next = { machine with quoting := {} } := by
  simp [step, single]

theorem read_single {body rest : List Char} (single : machine.quoting = { inSingle := true })
    (inside : '\'' ∉ body) : machine.read body rest = machine.pushAll body := by
  induction body generalizing machine with
  | nil => rfl
  | cons c more ih =>
      simp only [List.mem_cons, not_or] at inside
      obtain ⟨literal, inside⟩ := inside
      rw [read_cons, step_single single _ (Ne.symm literal), pushAll_cons]
      exact @ih (machine.push c) single inside

/-! ## Inside double quotes -/

section Double

variable (double : machine.quoting = { inDouble := true })

include double

theorem step_double {c : Char} (next : Option Char) (literal : c ≠ '"') (plain : c ≠ '\\') :
    machine.step c next = machine.push c := by
  simp [step, double, literal, plain, Quoting.quoted]

theorem step_doubleBackslash (next : Option Char) :
    machine.step '\\' next =
      if next.any escapable then { machine with quoting := { inDouble := true, escaped := true } }
      else machine.push '\\' := by
  simp [step, backslash, double]

theorem step_closeDouble (next : Option Char) :
    machine.step '"' next = { machine with quoting := {} } := by
  simp [step, double]

end Double

/-! ## What a step does to the words -/

/-- A character is a sign for what stands beside it, joins the word being read, or ends it. -/
theorem step_cases (machine : Machine) (c : Char) (next : Option Char) :
    (c = '\\' ∨ c = '\'' ∨ c = '"') ∧ (∃ quoting, machine.step c next = { machine with quoting }) ∨
      (∃ quoting, machine.step c next = { machine.push c with quoting }) ∨
      c = ' ' ∧ machine.step c next = machine.flush := by
  by_cases escaped : machine.quoting.escaped = true
  · exact .inr (.inl ⟨_, step_escaped escaped c next⟩)
  have pushed : { machine.push c with quoting := machine.quoting } = machine.push c := rfl
  simp only [step, escaped, Bool.false_eq_true, if_false]
  split
  · rename_i slash
    subst slash
    unfold backslash
    split
    · exact .inr (.inl ⟨_, pushed.symm⟩)
    · split
      · split
        · exact .inl ⟨.inl rfl, _, rfl⟩
        · exact .inr (.inl ⟨_, pushed.symm⟩)
      · exact .inl ⟨.inl rfl, _, rfl⟩
  · split
    · rename_i double
      rw [Bool.and_eq_true, decide_eq_true_eq] at double
      exact .inl ⟨.inr (.inr double.1), _, rfl⟩
    · split
      · rename_i single
        rw [Bool.and_eq_true, decide_eq_true_eq] at single
        exact .inl ⟨.inr (.inl single.1), _, rfl⟩
      · split
        · rename_i space
          rw [Bool.and_eq_true, decide_eq_true_eq] at space
          exact .inr (.inr ⟨space.1, rfl⟩)
        · exact .inr (.inl ⟨_, pushed.symm⟩)

/-! ## Ends of words -/

@[simp] theorem flush_quoting : machine.flush.quoting = machine.quoting := by
  unfold flush
  split <;> rfl

@[simp] theorem flush_pending : machine.flush.pending = [] := by
  unfold flush
  split
  · assumption
  · rfl

theorem flush_of_pending_nil (idle : machine.pending = []) : machine.flush = machine := by
  simp [flush, idle]

/-- An empty word leaves no trace. -/
theorem flush_emitted :
    machine.flush.emitted = machine.emitted ++ [machine.buffer].filter (· ≠ []) := by
  cases idle : machine.pending with
  | nil => simp [flush, emitted, buffer, idle]
  | cons c cs => simp [flush, emitted, buffer, idle]

theorem read_spaces (bare : machine.quoting = {}) (count : Nat) (rest : List Char) :
    machine.read (List.replicate (count + 1) ' ') rest = machine.flush := by
  induction count generalizing machine with
  | zero => simpa [read_cons] using step_space bare rest.head?
  | succ count ih =>
      rw [List.replicate_succ, read_cons, step_space bare, ih (flush_quoting.trans bare)]
      exact flush_of_pending_nil flush_pending

end Machine

end LineShell.Words
