import Mathlib.Algebra.GroupWithZero.Nat
import LineShell.Proofs.Words.Concatenation
import LineShell.Proofs.Words.Rendering
/-!
Words that can be written as they are. Each character of a line adds at most one to what the machine
holds, if an ended word counts for one more than its characters. The first character outside quotes that
does not stand for itself adds nothing, and nothing behind it makes up for that.
-/

namespace LineShell.Words

namespace Machine

variable {machine : Machine}

/-- How much of a line the words read so far account for. -/
def weight (machine : Machine) : Nat :=
  machine.pending.length + (machine.finished.map (·.length + 1)).sum

def AllPlain (machine : Machine) : Prop :=
  (∀ c ∈ machine.pending, Plain c) ∧ ∀ word ∈ machine.finished, ∀ c ∈ word, Plain c

theorem weight_push (c : Char) : (machine.push c).weight = machine.weight + 1 := by
  simp only [weight, push, List.length_cons]
  omega

theorem weight_flush_le : machine.flush.weight ≤ machine.weight + 1 := by
  unfold flush
  split
  · omega
  · simp only [weight, buffer, List.map_cons, List.sum_cons, List.length_nil, List.length_reverse]
    omega

theorem weight_step_le (c : Char) (next : Option Char) :
    (machine.step c next).weight ≤ machine.weight + 1 := by
  rcases machine.step_cases c next with ⟨_, _, sign⟩ | ⟨_, joins⟩ | ⟨_, ends⟩
  · rw [sign]
    exact Nat.le_succ _
  · rw [joins]
    exact Nat.le_of_eq (weight_push c)
  · rw [ends]
    exact weight_flush_le

theorem weight_read_le (stretch rest : List Char) :
    (machine.read stretch rest).weight ≤ machine.weight + stretch.length := by
  induction stretch generalizing machine with
  | nil => exact Nat.le_refl _
  | cons c more ih =>
      have first := machine.weight_step_le c (more ++ rest).head?
      have others := @ih (machine.step c (more ++ rest).head?)
      rw [read_cons, List.length_cons]
      omega

theorem AllPlain.push {c : Char} (all : machine.AllPlain) (plain : Plain c) :
    (machine.push c).AllPlain := by
  refine ⟨?_, all.2⟩
  intro d member
  rcases List.mem_cons.mp member with rfl | earlier
  · exact plain
  · exact all.1 d earlier

theorem AllPlain.flush (all : machine.AllPlain) : machine.flush.AllPlain := by
  unfold Machine.flush
  split
  · exact all
  · refine ⟨by simp, ?_⟩
    intro word member
    rcases List.mem_cons.mp member with rfl | earlier
    · intro c kept
      exact all.1 c (List.mem_reverse.mp kept)
    · exact all.2 word earlier

/-- A sign outside quotes is read for what stands beside it and kept nowhere. -/
theorem weight_sign {c : Char} (bare : machine.quoting = {}) (next : Option Char)
    (sign : c = '\\' ∨ c = '\'' ∨ c = '"') : (machine.step c next).weight = machine.weight := by
  rcases sign with rfl | rfl | rfl
  · rw [step_backslash bare]
    rfl
  · rw [step_openSingle bare]
    rfl
  · rw [step_openDouble bare]
    rfl

theorem read_plain_or_light (bare : machine.quoting = {}) (all : machine.AllPlain)
    (stretch rest : List Char) :
    (machine.read stretch rest).AllPlain ∨
      (machine.read stretch rest).weight < machine.weight + stretch.length := by
  -- Up to the first sign the machine stays outside quotes and holds plain characters only; from there
  -- on the bound on single steps is enough.
  induction stretch generalizing machine with
  | nil => exact .inl all
  | cons c more ih =>
      rw [read_cons, List.length_cons]
      rcases Plain.or_special c with plain | rfl | sign
      · rw [step_plain bare plain]
        rcases @ih (machine.push c) bare (all.push plain) with kept | light
        · exact .inl kept
        · rw [weight_push] at light
          exact .inr (by omega)
      · rw [step_space bare]
        rcases @ih machine.flush (flush_quoting.trans bare) all.flush with kept | light
        · exact .inl kept
        · have ended := machine.weight_flush_le
          exact .inr (by omega)
      · have dropped := weight_sign bare (more ++ rest).head? sign
        have others := (machine.step c (more ++ rest).head?).weight_read_le more rest
        exact .inr (by omega)

end Machine

theorem ofChars_plain_or_light (line : List Char) :
    (∀ word ∈ ofChars line, ∀ c ∈ word, Plain c) ∨
      ((ofChars line).map (·.length + 1)).sum < line.length + 1 := by
  have empty : Machine.AllPlain {} := ⟨by simp, by simp⟩
  rcases Machine.read_plain_or_light rfl empty line [] with kept | light
  · left
    intro word listed
    exact kept.flush.2 word (List.mem_reverse.mp listed)
  · right
    have counted : ((ofChars line).map (·.length + 1)).sum = (Machine.read {} line []).flush.weight := by
      rw [ofChars, Machine.emitted, List.map_reverse, List.sum_reverse, Machine.weight,
        Machine.flush_pending, List.length_nil, Nat.zero_add]
    have ended := (Machine.read {} line []).weight_flush_le
    have none : Machine.weight {} = 0 := rfl
    omega

theorem length_intercalate_space {words : List (List Char)} (some : words ≠ []) :
    ([' '].intercalate words).length + 1 = (words.map (·.length + 1)).sum := by
  induction words with
  | nil => contradiction
  | cons word others ih =>
      cases others with
      | nil => simp
      | cons next others =>
          have behind := ih (by simp)
          rw [List.intercalate_cons_cons, List.map_cons, List.sum_cons, ← behind]
          simp only [List.length_append, List.length_singleton]
          omega

theorem plain_iff (text : List Char) :
    (∀ c ∈ text, Plain c) ↔ ' ' ∉ text ∧ '\\' ∉ text ∧ '\'' ∉ text ∧ '"' ∉ text := by
  constructor
  · intro plain
    exact ⟨fun listed => (plain _ listed).1 rfl, fun listed => (plain _ listed).2.1 rfl,
      fun listed => (plain _ listed).2.2.1 rfl, fun listed => (plain _ listed).2.2.2 rfl⟩
  · rintro ⟨space, slash, single, double⟩ c listed
    exact ⟨fun same => space (same ▸ listed), fun same => slash (same ▸ listed),
      fun same => single (same ▸ listed), fun same => double (same ▸ listed)⟩

theorem plain_of_ofChars_intercalate {words : List (List Char)}
    (same : ofChars ([' '].intercalate words) = words) : ∀ word ∈ words, ∀ c ∈ word, Plain c := by
  rcases ofChars_plain_or_light ([' '].intercalate words) with plain | light
  · rwa [same] at plain
  · rw [same] at light
    by_cases none : words = []
    · simp [none]
    · have full := length_intercalate_space none
      omega

/-- Joined by single spaces, words are read back just where none of them is empty and all of their
characters stand for themselves. -/
theorem ofLine_intercalate_eq_iff (words : List String) :
    ofLine (" ".intercalate words) = words ↔
      ∀ word ∈ words, word ≠ "" ∧
        ' ' ∉ word.toList ∧ '\\' ∉ word.toList ∧ '\'' ∉ word.toList ∧ '"' ∉ word.toList := by
  constructor
  · intro same word listed
    have visible : word ≠ "" := by
      rw [← same] at listed
      exact visible_of_mem_ofLine listed
    have joined : ofChars ([' '].intercalate (words.map String.toList)) = words.map String.toList := by
      have texts := ofLine_eq_iff.mp same
      rwa [String.toList_intercalate] at texts
    have plain := plain_of_ofChars_intercalate joined word.toList (List.mem_map_of_mem listed)
    exact ⟨visible, (plain_iff word.toList).mp plain⟩
  · intro unspecial
    have read := ofLine_intercalate (words.map fun word => (word, word)) (by
      intro piece member
      obtain ⟨word, listed, rfl⟩ := List.mem_map.mp member
      obtain ⟨visible, plain⟩ := unspecial word listed
      exact ⟨renders_self ((plain_iff word.toList).mpr plain), visible⟩)
    simpa [Function.comp_def] using read

end LineShell.Words
