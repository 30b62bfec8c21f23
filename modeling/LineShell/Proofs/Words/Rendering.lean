import LineShell.Proofs.Words.Machine
import LineShell.Text.WhiteSpace
/-!
Writing words down so that they are read back: pieces that stand for a word wherever they are written
outside quotes, and the lines that such pieces make up.
-/

namespace LineShell.Words

/-- The machine reads `written` as the characters `word` of a word, wherever it stands outside
quotes. -/
def Renders (written word : List Char) : Prop :=
  ∀ (machine : Machine) (rest : List Char),
    machine.quoting = {} → machine.read written rest = machine.pushAll word

namespace Renders

theorem nil : Renders [] [] := fun _ _ _ => rfl

theorem append {written word more others : List Char} (first : Renders written word)
    (second : Renders more others) : Renders (written ++ more) (word ++ others) := by
  intro machine rest bare
  rw [Machine.read_append, first machine _ bare, Machine.pushAll_append]
  exact second (machine.pushAll word) rest bare

theorem plain {cs : List Char} (plain : ∀ c ∈ cs, Plain c) : Renders cs cs := by
  intro machine rest bare
  induction cs generalizing machine with
  | nil => rfl
  | cons c cs ih =>
      rw [Machine.read_cons, Machine.step_plain bare (plain c (by simp)), Machine.pushAll_cons]
      exact ih (fun c member => plain c (by simp [member])) (machine.push c) bare

end Renders

/-! ## Single quotes -/

/-- How a character is written between single quotes. A single quote itself cannot stand there: the
quotes close before it and open again behind it. -/
def quotedChar (c : Char) : List Char :=
  if c = '\'' then ['\'', '\\', '\'', '\''] else [c]

def quoted (word : String) : String :=
  String.ofList ('\'' :: word.toList.flatMap quotedChar ++ ['\''])

def quotedLine (words : List String) : String :=
  " ".intercalate (words.map quoted)

theorem Machine.read_quotedChars {machine : Machine}
    (single : machine.quoting = { inSingle := true }) (cs rest : List Char) :
    machine.read (cs.flatMap quotedChar) rest = machine.pushAll cs := by
  induction cs generalizing machine with
  | nil => rfl
  | cons c cs ih =>
      have first : machine.read (quotedChar c) (cs.flatMap quotedChar ++ rest) = machine.push c := by
        by_cases quote : c = '\''
        · rw [quotedChar, if_pos quote, read_cons, step_closeSingle single, read_cons,
            step_backslash rfl, read_cons, step_escaped rfl, read_cons, step_openSingle rfl, quote]
          simp [push, single]
        · rw [quotedChar, if_neg quote, read_cons, step_single single _ quote]
          rfl
      rw [List.flatMap_cons, read_append, first, pushAll_cons]
      exact @ih (machine.push c) single

theorem renders_self {word : String} (plain : ∀ c ∈ word.toList, Plain c) :
    Renders word.toList word.toList :=
  .plain plain

theorem renders_quoted (word : String) : Renders (quoted word).toList word.toList := by
  intro machine rest bare
  rw [quoted, String.toList_ofList, List.cons_append, Machine.read_cons, Machine.step_openSingle bare,
    Machine.read_append, Machine.read_quotedChars rfl, Machine.read_cons, Machine.step_closeSingle rfl]
  exact @Machine.with_quoting_self (machine.pushAll word.toList) _ bare

/-! ## Lines of pieces -/

theorem Machine.read_intercalate {machine : Machine} (bare : machine.quoting = {})
    (idle : machine.pending = []) (pieces : List (List Char × List Char))
    (rendered : ∀ piece ∈ pieces, Renders piece.1 piece.2 ∧ piece.2 ≠ []) :
    (machine.read ([' '].intercalate (pieces.map (·.1))) []).flush.emitted =
      machine.emitted ++ pieces.map (·.2) := by
  induction pieces generalizing machine with
  | nil => simp [flush_of_pending_nil idle]
  | cons piece pieces ih =>
      obtain ⟨reads, visible⟩ := rendered piece (by simp)
      have word : (machine.pushAll piece.2).flush.emitted = machine.emitted ++ [piece.2] := by
        rw [flush_emitted]
        simp [buffer, pushAll, idle, visible, emitted]
      cases pieces with
      | nil => simpa [reads machine [] bare] using word
      | cons next others =>
          rw [List.map_cons, List.map_cons, List.intercalate_cons_cons, read_append, read_append,
            List.append_nil, reads machine _ bare, read_cons,
            @step_space (machine.pushAll piece.2) bare, read_nil]
          have more := @ih (machine.pushAll piece.2).flush (flush_quoting.trans bare) flush_pending
            (fun piece member => rendered piece (by simp [member]))
          rw [List.map_cons] at more
          rw [more, word]
          simp

theorem ofLine_intercalate (pieces : List (String × String))
    (rendered : ∀ piece ∈ pieces, Renders piece.1.toList piece.2.toList ∧ piece.2 ≠ "") :
    ofLine (" ".intercalate (pieces.map (·.1))) = pieces.map (·.2) := by
  have words := @Machine.read_intercalate {} rfl rfl
    (pieces.map fun piece => (piece.1.toList, piece.2.toList)) (by
      intro texts member
      obtain ⟨piece, listed, rfl⟩ := List.mem_map.mp member
      simpa using rendered piece listed)
  rw [ofLine, ofChars, String.toList_intercalate, List.map_map]
  rw [List.map_map, List.map_map] at words
  exact (congrArg (List.map String.ofList) words).trans (by simp [Machine.emitted])

theorem ofLine_quotedLine {words : List String} (visible : ∀ word ∈ words, word ≠ "") :
    ofLine (quotedLine words) = words := by
  have read := ofLine_intercalate (words.map fun word => (quoted word, word)) (by
    intro piece member
    obtain ⟨word, listed, rfl⟩ := List.mem_map.mp member
    exact ⟨renders_quoted word, visible word listed⟩)
  simpa [quotedLine, Function.comp_def] using read

theorem ofLine_quotedLine_append {words : List String} (some : words ≠ [])
    (visible : ∀ word ∈ words, word ≠ "") (pieces : List (String × String)) (behind : pieces ≠ [])
    (rendered : ∀ piece ∈ pieces, Renders piece.1.toList piece.2.toList ∧ piece.2 ≠ "") :
    ofLine (quotedLine words ++ " " ++ " ".intercalate (pieces.map (·.1))) =
      words ++ pieces.map (·.2) := by
  have read := ofLine_intercalate (words.map (fun word => (quoted word, word)) ++ pieces) (by
    intro piece member
    rcases List.mem_append.mp member with quotes | listed
    · obtain ⟨word, listed, rfl⟩ := List.mem_map.mp quotes
      exact ⟨renders_quoted word, visible word listed⟩
    · exact rendered piece listed)
  rw [List.map_append, String.intercalate_append_of_ne_nil (by simpa) (by simpa)] at read
  simpa [quotedLine, Function.comp_def] using read

theorem trimmed_of_ends {line : String} {first last : Char} (front : line.toList.head? = some first)
    (back : line.toList.getLast? = some last) (visible : Text.isWhiteSpace first = false)
    (visible' : Text.isWhiteSpace last = false) : trimmed line = line := by
  rw [trimmed, Text.trim_eq_self, String.ofList_toList]
  · intro c found
    cases front.symm.trans found
    exact visible
  · intro c found
    cases back.symm.trans found
    exact visible'

theorem trimmed_of_quotes {line : String} (front : line.toList.head? = some '\'')
    (back : line.toList.getLast? = some '\'') : trimmed line = line :=
  trimmed_of_ends front back (by decide) (by decide)

theorem quoted_front (word : String) : (quoted word).toList.head? = some '\'' := by
  simp [quoted]

theorem quoted_back (before word : String) : (before ++ quoted word).toList.getLast? = some '\'' := by
  rw [String.toList_append, quoted, String.toList_ofList, ← List.append_assoc, List.getLast?_concat]

theorem quotedLine_front (name : String) (arguments : List String) (behind : String) :
    (quotedLine (name :: arguments) ++ behind).toList.head? = some '\'' := by
  have front := quoted_front name
  cases arguments <;> simp [quotedLine, List.head?_append, front]

theorem quotedLine_back (name : String) (arguments : List String) :
    (quotedLine (name :: arguments)).toList.getLast? = some '\'' := by
  rcases List.eq_nil_or_concat arguments with rfl | ⟨others, last, rfl⟩
  · simpa [quotedLine] using quoted_back "" name
  · have split : quotedLine (name :: (others ++ [last])) =
        quotedLine (name :: others) ++ " " ++ quoted last := by
      rw [quotedLine, ← List.cons_append, List.map_append,
        String.intercalate_append_of_ne_nil (by simp) (by simp)]
      simp [quotedLine]
    rw [List.concat_eq_append, split]
    exact quoted_back _ last

end LineShell.Words
