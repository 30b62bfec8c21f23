import LineShell.Proofs.Words.Grammar
import LineShell.Proofs.Words.Lookahead
/-!
Lines put together. A text that leaves nothing open and a line behind it, parted by a space, have the
words of the one and then those of the other; and whatever follows a text, the words before its last
one stay.
-/

namespace LineShell.Words

/-- A text that leaves no quote open and no escape pending. -/
def Closed (text : List Char) : Prop :=
  (Machine.read {} text []).quoting = {}
deriving Decidable

namespace Machine

variable {machine : Machine}

/-- Between two words it does not matter which words came before. -/
theorem read_line (bare : machine.quoting = {}) (idle : machine.pending = []) (line : List Char) :
    (machine.read line []).flush.emitted = machine.emitted ++ ofChars line := by
  obtain ⟨denoted, reading⟩ := exists_reading line
  rw [read_reading bare idle reading, ofChars_of_reading reading]

/-! ## Finished words stay finished -/

theorem flush_extends : machine.finished <:+ machine.flush.finished := by
  unfold flush
  split
  · exact List.suffix_refl _
  · exact List.suffix_cons _ _

theorem step_extends (c : Char) (next : Option Char) :
    machine.finished <:+ (machine.step c next).finished := by
  rcases machine.step_cases c next with ⟨_, _, sign⟩ | ⟨_, joins⟩ | ⟨_, ends⟩
  · simp [sign]
  · simp [joins, push]
  · rw [ends]
    exact flush_extends

theorem read_extends (stretch rest : List Char) :
    machine.finished <:+ (machine.read stretch rest).finished := by
  induction stretch generalizing machine with
  | nil => exact List.suffix_refl _
  | cons c more ih => exact (step_extends c _).trans ih

theorem emitted_isPrefix {before after : Machine} (onward : before.finished <:+ after.finished) :
    before.emitted <+: after.emitted :=
  List.reverse_prefix.mpr onward

end Machine

@[simp] theorem ofChars_nil : ofChars [] = [] := rfl

theorem closed_nil : Closed [] := rfl

theorem visible_of_mem_ofChars {line word : List Char} (listed : word ∈ ofChars line) : word ≠ [] := by
  obtain ⟨denoted, reading⟩ := exists_reading line
  rw [ofChars_of_reading reading] at listed
  simpa using (List.mem_filter.mp listed).2

theorem visible_of_mem_ofLine {line word : String} (listed : word ∈ ofLine line) : word ≠ "" := by
  obtain ⟨text, member, rfl⟩ := List.mem_map.mp listed
  simpa using visible_of_mem_ofChars member

theorem ofLine_eq_iff {line : String} {words : List String} :
    ofLine line = words ↔ ofChars line.toList = words.map String.toList := by
  constructor
  · rintro rfl
    simp [ofLine]
  · intro same
    simp [ofLine, same]

theorem ofChars_append_space {first : List Char} (closed : Closed first) (second : List Char) :
    ofChars (first ++ ' ' :: second) = ofChars first ++ ofChars second := by
  have ahead : Machine.read {} first (' ' :: second) = Machine.read {} first [] :=
    Machine.read_of_closed closed _
  rw [ofChars, Machine.read_append, List.append_nil, ahead, Machine.read_cons,
    Machine.step_space closed,
    Machine.read_line (Machine.flush_quoting.trans closed) Machine.flush_pending]
  rfl

theorem ofChars_spaces_append (count : Nat) (line : List Char) :
    ofChars (List.replicate count ' ' ++ line) = ofChars line := by
  induction count with
  | zero => rfl
  | succ count ih =>
      have parted := ofChars_append_space closed_nil (List.replicate count ' ' ++ line)
      rw [ofChars_nil, List.nil_append, List.nil_append] at parted
      rw [List.replicate_succ, List.cons_append, parted, ih]

theorem ofChars_spaces (count : Nat) : ofChars (List.replicate count ' ') = [] := by
  simpa using ofChars_spaces_append count []

theorem ofChars_append_spaces {text : List Char} (closed : Closed text) (count : Nat) :
    ofChars (text ++ List.replicate count ' ') = ofChars text := by
  cases count with
  | zero => rw [List.replicate_zero, List.append_nil]
  | succ count =>
      rw [List.replicate_succ, ofChars_append_space closed, ofChars_spaces, List.append_nil]

/-- The words of a text but the last are finished when its last character is read. -/
theorem dropLast_ofChars_isPrefix (text : List Char) :
    (ofChars text).dropLast <+: (Machine.read {} text []).emitted := by
  rw [ofChars, Machine.flush_emitted]
  by_cases idle : (Machine.read {} text []).buffer = []
  · rw [idle]
    simpa using List.dropLast_prefix _
  · simp [idle]

theorem ofChars_append_extends (first second : List Char) :
    (ofChars first).dropLast <+: ofChars (first ++ second) := by
  have finished : (Machine.read {} first second).finished = (Machine.read {} first []).finished :=
    Machine.read_finished first second []
  have onward : (Machine.read {} first second).finished <:+
      (Machine.read {} (first ++ second) []).flush.finished := by
    rw [Machine.read_append, List.append_nil]
    exact (Machine.read_extends second []).trans Machine.flush_extends
  rw [finished] at onward
  exact (dropLast_ofChars_isPrefix first).trans (Machine.emitted_isPrefix onward)

/-- Behind a text that leaves nothing open a space parts the words of the text from those that follow.
With no condition at all every word of a text but its last stays what it is, whatever follows. -/
theorem ofLine_append (first second : String) (rest : List Char) :
    ((Machine.read {} first.toList rest).quoting = {} →
      ofLine (first ++ " " ++ second) = ofLine first ++ ofLine second) ∧
    (ofLine first).dropLast <+: ofLine (first ++ second) := by
  constructor
  · intro closed
    -- What the text leaves open is the same alone and before `rest`.
    have closed : Closed first.toList := by
      rw [Closed, Machine.read_of_closed closed]
      exact closed
    have parted : (first ++ " " ++ second).toList = first.toList ++ ' ' :: second.toList := by
      simp
    rw [ofLine, parted, ofChars_append_space closed, List.map_append]
    rfl
  · have kept := (ofChars_append_extends first.toList second.toList).map String.ofList
    rw [List.map_dropLast] at kept
    rwa [ofLine, ofLine, String.toList_append]

/-- A backslash that ends a text inside double quotes is one more character of its last word until a
double quote follows. -/
theorem ofLine_append_slash :
    (Machine.read {} "echo 'a b'\\ ".toList []).quoting = {} ∧
      ofLine ("echo 'a b'\\ " ++ " " ++ "c \"\\") = ["echo", "a b "] ++ ["c", "\\"] ∧
      ["c"] <+: ofLine ("c \"\\" ++ "\" d") := by
  have closed : (Machine.read {} "echo 'a b'\\ ".toList []).quoting = {} := by decide
  exact ⟨closed, (ofLine_append "echo 'a b'\\ " "c \"\\" []).1 closed,
    (ofLine_append "c \"\\" "\" d" []).2⟩

end LineShell.Words
