import LineShell.Proofs.Words.Concatenation
import LineShell.Proofs.Words.Rendering
/-!
The many ways to write words down. A word may be cut anywhere and each piece written in a style of its
own; pairs of quotes with nothing inside and spaces around the words may be put in freely. Whatever way
is taken, the words are read back.
-/

namespace LineShell.Words

/-- What is written between double quotes for a text. A backslash stands before every backslash and
double quote, and may stand before a dollar sign or a line break. -/
inductive DoubleQuoted : List Char → List Char → Prop
  | nil : DoubleQuoted [] []
  | plain {c : Char} {written text : List Char} (unslashed : c ≠ '\\') (unclosed : c ≠ '"')
      (more : DoubleQuoted written text) : DoubleQuoted (c :: written) (c :: text)
  | escaped {c : Char} {written text : List Char} (escapable : Escapable c)
      (more : DoubleQuoted written text) : DoubleQuoted ('\\' :: c :: written) (c :: text)

def backslashed (text : List Char) : List Char :=
  text.flatMap fun c => ['\\', c]

/-- A piece of a word, written in one of the styles that can be applied to it. -/
inductive WrittenPiece : List Char → List Char → Prop
  | raw {piece : List Char} (plain : ∀ c ∈ piece, Plain c) : WrittenPiece piece piece
  | single {piece : List Char} (inside : '\'' ∉ piece) :
      WrittenPiece ('\'' :: piece ++ ['\'']) piece
  | double {written piece : List Char} (inside : DoubleQuoted written piece) :
      WrittenPiece ('"' :: written ++ ['"']) piece
  | backslashed (piece : List Char) : WrittenPiece (backslashed piece) piece

inductive WrittenWord : List Char → List Char → Prop
  | nil : WrittenWord [] []
  | piece {written piece others word : List Char} (first : WrittenPiece written piece)
      (more : WrittenWord others word) : WrittenWord (written ++ others) (piece ++ word)
  | emptyQuotes {quote : Char} {written word : List Char} (either : quote = '\'' ∨ quote = '"')
      (more : WrittenWord written word) : WrittenWord (quote :: quote :: written) word

/-- Written words with one or more spaces between each two of them. -/
inductive WrittenWords : List Char → List (List Char) → Prop
  | none : WrittenWords [] []
  | last {written word : List Char} (last : WrittenWord written word) : WrittenWords written [word]
  | cons {written word rest next : List Char} {words : List (List Char)}
      (first : WrittenWord written word) (more : Nat) (others : WrittenWords rest (next :: words)) :
      WrittenWords (written ++ (List.replicate (more + 1) ' ' ++ rest)) (word :: next :: words)

def WrittenLine (line : String) (words : List String) : Prop :=
  ∃ before after written, WrittenWords written (words.map String.toList) ∧
    line.toList = List.replicate before ' ' ++ written ++ List.replicate after ' '

/-! ## Each style is read back -/

theorem DoubleQuoted.body {written text : List Char} (quoted : DoubleQuoted written text)
    (rest : List Char) : DoubleBody rest written text := by
  induction quoted with
  | nil => exact .nil
  | plain unslashed unclosed _ ih => exact .literal unclosed (fun slash => absurd slash unslashed) ih
  | escaped escapable _ ih => exact .escape escapable ih

namespace Renders

theorem single {piece : List Char} (inside : '\'' ∉ piece) :
    Renders ('\'' :: piece ++ ['\'']) piece := by
  intro machine rest bare
  rw [List.cons_append, Machine.read_cons, Machine.step_openSingle bare, Machine.read_append,
    Machine.read_single rfl inside, Machine.read_cons, Machine.step_closeSingle rfl]
  exact @Machine.with_quoting_self (machine.pushAll piece) _ bare

theorem double {written piece : List Char} (inside : DoubleQuoted written piece) :
    Renders ('"' :: written ++ ['"']) piece := by
  intro machine rest bare
  rw [List.cons_append, Machine.read_cons, Machine.step_openDouble bare, Machine.read_append,
    Machine.read_double rfl (inside.body _), Machine.read_cons, Machine.step_closeDouble rfl]
  exact @Machine.with_quoting_self (machine.pushAll piece) _ bare

theorem escaped (c : Char) : Renders ['\\', c] [c] := by
  intro machine rest bare
  rw [Machine.read_cons, Machine.read_cons, Machine.step_backslash bare, Machine.step_escaped rfl]
  exact @Machine.with_quoting_self (machine.push c) _ bare

theorem backslashed (text : List Char) : Renders (backslashed text) text := by
  induction text with
  | nil => exact .nil
  | cons c text ih => exact (Renders.escaped c).append ih

end Renders

theorem WrittenPiece.renders {written piece : List Char} (style : WrittenPiece written piece) :
    Renders written piece := by
  cases style with
  | raw plain => exact .plain plain
  | single inside => exact .single inside
  | double inside => exact .double inside
  | backslashed => exact .backslashed piece

theorem WrittenWord.renders {written word : List Char} (writing : WrittenWord written word) :
    Renders written word := by
  induction writing with
  | nil => exact .nil
  | piece first _ ih => exact first.renders.append ih
  | emptyQuotes either _ ih =>
      rcases either with rfl | rfl
      · have pair : Renders ['\'', '\''] [] := .single List.not_mem_nil
        exact pair.append ih
      · have pair : Renders ['"', '"'] [] := .double .nil
        exact pair.append ih

/-! ## Lines of written words -/

theorem Renders.closed {written word : List Char} (renders : Renders written word) :
    Closed written := by
  rw [Closed, renders {} [] rfl]
  rfl

theorem Renders.ofChars {written word : List Char} (renders : Renders written word)
    (visible : word ≠ []) : ofChars written = [word] := by
  rw [Words.ofChars, renders {} [] rfl, Machine.flush_emitted]
  simp [Machine.buffer, Machine.pushAll, Machine.emitted, visible]

theorem WrittenWords.ofChars {written : List Char} {words : List (List Char)}
    (writing : WrittenWords written words) (visible : ∀ word ∈ words, word ≠ []) (after : Nat) :
    ofChars (written ++ List.replicate after ' ') = words := by
  induction writing with
  | none => exact ofChars_spaces after
  | last last =>
      rw [ofChars_append_spaces last.renders.closed, last.renders.ofChars (visible _ (by simp))]
  | @cons written word rest next words first more others ih =>
      have behind := ih fun word listed => visible word (by simp [listed])
      rw [List.append_assoc, List.append_assoc, List.replicate_succ, List.cons_append,
        ofChars_append_space first.renders.closed, ofChars_spaces_append, behind,
        first.renders.ofChars (visible word (by simp))]
      rfl

theorem WrittenLine.ofLine {line : String} {words : List String} (writing : WrittenLine line words)
    (visible : ∀ word ∈ words, word ≠ "") : ofLine line = words := by
  obtain ⟨before, after, written, joined, spelled⟩ := writing
  have listed : ∀ word ∈ words.map String.toList, word ≠ [] := by
    intro text member
    obtain ⟨word, listed, rfl⟩ := List.mem_map.mp member
    simpa using visible word listed
  rw [ofLine_eq_iff, spelled, List.append_assoc, ofChars_spaces_append, joined.ofChars listed]

/-- Words that are not empty are read back from every line they are written as. The words of a line are
of this kind, so they are read again from every line that they are written as. -/
theorem ofLine_of_written (line : String) :
    (∀ words, (∀ word ∈ words, word ≠ "") → WrittenLine line words → ofLine line = words) ∧
      (∀ word ∈ ofLine line, word ≠ "") ∧
      ∀ again, WrittenLine again (ofLine line) → ofLine again = ofLine line := by
  have visible : ∀ word ∈ ofLine line, word ≠ "" := fun _ listed => visible_of_mem_ofLine listed
  refine ⟨?_, visible, ?_⟩
  · intro words visible writing
    exact writing.ofLine visible
  · intro again writing
    exact writing.ofLine visible

theorem ofLine_of_written_mixed :
    WrittenLine "  it\\'s''  \"a\\\\\\$ $\" 'q r'z " ["it's", "a\\$ $", "q rz"] ∧
      ofLine "  it\\'s''  \"a\\\\\\$ $\" 'q r'z " = ["it's", "a\\$ $", "q rz"] ∧
      ofLine "  it\\'s''  \"a\\\\\\$ $\" 'q r'z " = ofLine "\"it's\" 'a\\$ $' q\\ rz" := by
  have its : WrittenWord "it\\'s''".toList "it's".toList :=
    have it : WrittenPiece "it".toList "it".toList := .raw (by simp [Plain])
    have quote : WrittenPiece (backslashed ['\'']) ['\''] := .backslashed ['\'']
    have s : WrittenPiece ['s'] ['s'] := .raw (by simp [Plain])
    .piece it (.piece quote (.piece s (.emptyQuotes (.inl rfl) .nil)))
  have dollars : WrittenWord "\"a\\\\\\$ $\"".toList "a\\$ $".toList :=
    have inside : DoubleQuoted "a\\\\\\$ $".toList "a\\$ $".toList :=
      .plain (by decide) (by decide) <| .escaped (.inl rfl) <| .escaped (.inr (.inl rfl)) <|
        .plain (by decide) (by decide) <| .plain (by decide) (by decide) .nil
    .piece (.double inside) .nil
  have spaced : WrittenWord "'q r'z".toList "q rz".toList :=
    have qr : WrittenPiece ('\'' :: "q r".toList ++ ['\'']) "q r".toList := .single (by decide)
    have z : WrittenPiece ['z'] ['z'] := .raw (by simp [Plain])
    .piece qr (.piece z .nil)
  have writing : WrittenLine "  it\\'s''  \"a\\\\\\$ $\" 'q r'z " ["it's", "a\\$ $", "q rz"] :=
    ⟨2, 1, _, .cons its 1 (.cons dollars 0 (.last spaced)), rfl⟩
  exact ⟨writing, (ofLine_of_written _).1 _ (by decide) writing,
    (ofLine_of_written "\"it's\" 'a\\$ $' q\\ rz").2.2 _ writing⟩

end LineShell.Words
