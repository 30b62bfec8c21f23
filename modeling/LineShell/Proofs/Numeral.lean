import LineShell.Text.Numeral
/-!
Which texts are counts and of what. The reader gives up at the first digit that takes the value too far,
which is right since a value never falls as digits follow.
-/

namespace LineShell.Numeral

/-- A text of digits that stand for a count, with a plus sign before them at will. -/
def Spells (text : String) (count : Nat) : Prop :=
  ∃ digits : List Char, (text.toList = digits ∨ text.toList = '+' :: digits) ∧ digits ≠ [] ∧
    (∀ c ∈ digits, c.isDigit = true) ∧ Nat.ofDigitChars 10 digits 0 = count ∧ count < Nat.pow 2 64

theorem le_ofDigitChars (value : Nat) (digits : List Char) :
    value ≤ Nat.ofDigitChars 10 digits value := by
  induction digits generalizing value with
  | nil => exact Nat.le_refl value
  | cons c rest ih =>
      rw [Nat.ofDigitChars_cons]
      have grown := ih (10 * value + (c.toNat - '0'.toNat))
      omega

theorem readDigits_eq_ok_iff {value : Nat} (small : value ≤ maxCount) (text : List Char) (count : Nat) :
    readDigits value text = .ok count ↔
      (∀ c ∈ text, c.isDigit = true) ∧ Nat.ofDigitChars 10 text value = count ∧ count ≤ maxCount := by
  induction text generalizing value with
  | nil =>
      simp only [readDigits, Except.ok.injEq, Nat.ofDigitChars_nil]
      constructor
      · rintro rfl
        exact ⟨nofun, rfl, small⟩
      · rintro ⟨-, same, -⟩
        exact same
  | cons c rest ih =>
      rw [readDigits, Nat.ofDigitChars_cons]
      by_cases digit : c.isDigit = true
      · have next : 10 * value + (c.toNat - '0'.toNat) = value * 10 + (c.toNat - '0'.toNat) := by
          omega
        simp only [digit?, digit, if_true, next, List.forall_mem_cons, true_and]
        split
        · next large =>
            have grown := le_ofDigitChars (value * 10 + (c.toNat - '0'.toNat)) rest
            simp only [reduceCtorEq, false_iff]
            rintro ⟨-, same, fits⟩
            omega
        · next fits => exact ih (Nat.not_lt.mp fits)
      · simp [digit?, digit]

/-- The counts that are read are those that a text spells. -/
theorem readCount_eq_ok_iff (text : String) (count : Nat) :
    readCount text.toList = .ok count ↔ Spells text count := by
  constructor
  · intro read
    unfold readCount at read
    split at read
    · contradiction
    · contradiction
    · next rest some same =>
        obtain ⟨plain, value, fits⟩ := (readDigits_eq_ok_iff (Nat.zero_le _) rest count).mp read
        exact ⟨rest, .inr same, some, plain, value, Nat.lt_of_le_sub_one (by decide) fits⟩
    · next some _ _ =>
        obtain ⟨plain, value, fits⟩ := (readDigits_eq_ok_iff (Nat.zero_le _) _ count).mp read
        exact ⟨text.toList, .inl rfl, some, plain, value, Nat.lt_of_le_sub_one (by decide) fits⟩
  · rintro ⟨digits, spelled, some, plain, value, fits⟩
    have below : count ≤ maxCount := Nat.le_sub_one_of_lt fits
    have read : readDigits 0 digits = .ok count :=
      (readDigits_eq_ok_iff (Nat.zero_le _) digits count).mpr ⟨plain, value, below⟩
    obtain same | same := spelled
    · -- A digit comes first, so no plus sign does.
      have unsigned (rest : List Char) : digits ≠ '+' :: rest := by
        rintro rfl
        exact absurd (plain '+' List.mem_cons_self) (by decide)
      rw [same]
      unfold readCount
      split
      · contradiction
      · exact absurd rfl (unsigned [])
      · exact absurd rfl (unsigned _)
      · exact read
    · rw [same, readCount]
      · exact read
      · exact some

theorem spells_toString {count : Nat} (fits : count < Nat.pow 2 64) : Spells (toString count) count := by
  refine ⟨Nat.toDigits 10 count, .inl ?_, Nat.toDigits_ne_nil, ?_, Nat.ofDigitChars_ten_toDigits, fits⟩
  · rw [Nat.toString_eq_ofList_toDigits, String.toList_ofList]
  · intro c listed
    exact Nat.isDigit_of_mem_toDigits (by decide) (by decide) listed

theorem rightAligned_eq (width n : Nat) :
    rightAligned width n =
      String.ofList (List.replicate (width - (toString n).length) ' ') ++ toString n := by
  rw [rightAligned, List.leftpad, String.ofList_append, Nat.toString_eq_ofList_toDigits,
    String.length_ofList]

end LineShell.Numeral
