/-!
Texts cut at a separator.
-/

namespace LineShell.Text

/-- The pieces between the separators of a text: one more than there are separators, so a text
without any is its own only field. -/
def fields (separator : Char) : List Char → List (List Char)
  | [] => [[]]
  | c :: rest =>
      if c = separator then [] :: fields separator rest
      else match fields separator rest with
        | [] => [[c]]
        | first :: others => (c :: first) :: others

theorem fields_ne_nil (separator : Char) (text : List Char) : fields separator text ≠ [] := by
  cases text with
  | nil => simp [fields]
  | cons c rest =>
      simp only [fields]
      split
      · simp
      · split <;> simp

theorem fields_append_separator (separator : Char) (left right : List Char) :
    fields separator (left ++ separator :: right) =
      fields separator left ++ fields separator right := by
  induction left with
  | nil => simp [fields]
  | cons c rest ih =>
      simp only [List.cons_append, fields, ih]
      split
      · simp
      · cases found : fields separator rest with
        | nil => exact absurd found (fields_ne_nil separator rest)
        | cons first others => simp

theorem fields_of_not_mem {separator : Char} {text : List Char} (absent : separator ∉ text) :
    fields separator text = [text] := by
  induction text with
  | nil => rfl
  | cons c rest ih =>
      simp only [List.mem_cons, not_or] at absent
      simp [fields, ih absent.2, Ne.symm absent.1]

theorem fields_intercalate {separator : Char} {pieces : List (List Char)}
    (free : ∀ piece ∈ pieces, separator ∉ piece) (some : pieces ≠ []) :
    fields separator ([separator].intercalate pieces) = pieces := by
  induction pieces with
  | nil => contradiction
  | cons first rest ih =>
      have absent := free first List.mem_cons_self
      cases rest with
      | nil => rw [List.intercalate_singleton, fields_of_not_mem absent]
      | cons second others =>
          have tail := ih (fun piece listed => free piece (List.mem_cons_of_mem _ listed))
            (List.cons_ne_nil second others)
          rw [List.intercalate_cons_cons, List.append_assoc, List.singleton_append,
            fields_append_separator, fields_of_not_mem absent, tail]
          rfl

theorem mem_intercalate_of_mem {separator c : Char} {piece : List Char} {pieces : List (List Char)}
    (listed : piece ∈ pieces) (inside : c ∈ piece) : c ∈ [separator].intercalate pieces := by
  induction pieces with
  | nil => contradiction
  | cons first rest ih =>
      cases rest with
      | nil =>
          rw [List.intercalate_singleton, ← List.mem_singleton.mp listed]
          exact inside
      | cons second others =>
          rw [List.intercalate_cons_cons]
          rcases List.mem_cons.mp listed with rfl | later
          · simp [inside]
          · simp [ih later]

theorem mem_of_mem_intercalate {separator c : Char} {pieces : List (List Char)}
    (inside : c ∈ [separator].intercalate pieces) : c = separator ∨ ∃ piece ∈ pieces, c ∈ piece := by
  induction pieces with
  | nil => contradiction
  | cons first rest ih =>
      cases rest with
      | nil =>
          rw [List.intercalate_singleton] at inside
          exact .inr ⟨first, List.mem_cons_self, inside⟩
      | cons second others =>
          rw [List.intercalate_cons_cons, List.append_assoc] at inside
          rcases List.mem_append.mp inside with head | tail
          · exact .inr ⟨first, List.mem_cons_self, head⟩
          · rcases List.mem_cons.mp tail with same | later
            · exact .inl same
            · obtain same | ⟨piece, listed, among⟩ := ih later
              · exact .inl same
              · exact .inr ⟨piece, List.mem_cons_of_mem first listed, among⟩

theorem not_mem_of_mem_fields {separator : Char} {text field : List Char}
    (listed : field ∈ fields separator text) : separator ∉ field := by
  induction text generalizing field with
  | nil => simp_all [fields]
  | cons c rest ih =>
      rw [fields] at listed
      split at listed
      · rcases List.mem_cons.mp listed with rfl | later
        · exact List.not_mem_nil
        · exact ih later
      · next other =>
          split at listed
          · next none => exact absurd none (fields_ne_nil separator rest)
          · next first others found =>
              rcases List.mem_cons.mp listed with rfl | later
              · have absent := ih (found ▸ List.mem_cons_self)
                simp [absent, Ne.symm other]
              · exact ih (found ▸ List.mem_cons_of_mem first later)

theorem intercalate_fields (separator : Char) (text : List Char) :
    [separator].intercalate (fields separator text) = text := by
  induction text with
  | nil => rfl
  | cons c rest ih =>
      cases cut : fields separator rest with
      | nil => exact absurd cut (fields_ne_nil separator rest)
      | cons first others =>
          rw [cut] at ih
          by_cases same : c = separator
          · rw [fields, if_pos same, cut, List.intercalate_cons_cons, ih, same]
            rfl
          · rw [fields, if_neg same, cut]
            cases others with
            | nil =>
                rw [List.intercalate_singleton] at ih ⊢
                rw [ih]
            | cons second later =>
                rw [List.intercalate_cons_cons] at ih ⊢
                rw [← ih]
                rfl

theorem fields_eq_iff {separator : Char} {text : List Char} {pieces : List (List Char)} :
    fields separator text = pieces ↔
      pieces ≠ [] ∧ (∀ piece ∈ pieces, separator ∉ piece) ∧ [separator].intercalate pieces = text := by
  constructor
  · rintro rfl
    exact ⟨fields_ne_nil separator text, fun _ listed => not_mem_of_mem_fields listed,
      intercalate_fields separator text⟩
  · rintro ⟨some, free, rfl⟩
    exact fields_intercalate free some

end LineShell.Text
