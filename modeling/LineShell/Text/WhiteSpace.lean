/-!
White space in the sense of the Unicode property `White_Space`, and texts without it at their
ends.
-/

namespace LineShell.Text

/-- The characters with the property `White_Space`. -/
def isWhiteSpace (c : Char) : Bool :=
  let n := c.toNat
  (0x09 ≤ n && n ≤ 0x0D) || n = 0x20 || n = 0x85 || n = 0xA0 || n = 0x1680 ||
    (0x2000 ≤ n && n ≤ 0x200A) || n = 0x2028 || n = 0x2029 || n = 0x202F || n = 0x205F ||
    n = 0x3000

def trimStart (text : List Char) : List Char :=
  text.dropWhile isWhiteSpace

def trimEnd (text : List Char) : List Char :=
  (text.reverse.dropWhile isWhiteSpace).reverse

/-- A text without the white space at its two ends. -/
def trim (text : List Char) : List Char :=
  trimEnd (trimStart text)

theorem trimStart_split (text : List Char) :
    text.takeWhile isWhiteSpace ++ trimStart text = text :=
  List.takeWhile_append_dropWhile

theorem trimEnd_split (text : List Char) :
    trimEnd text ++ (text.reverse.takeWhile isWhiteSpace).reverse = text := by
  rw [trimEnd, ← List.reverse_append, List.takeWhile_append_dropWhile, List.reverse_reverse]

theorem visible_of_getLast?_trim {text : List Char} {c : Char}
    (last : (trim text).getLast? = some c) : isWhiteSpace c = false := by
  rw [trim, trimEnd, List.getLast?_reverse] at last
  have visible := List.head?_dropWhile_not isWhiteSpace (trimStart text).reverse
  rwa [last] at visible

/-- A text with no white space at its two ends is left as it is. -/
theorem trim_eq_self {text : List Char} (front : ∀ c ∈ text.head?, isWhiteSpace c = false)
    (back : ∀ c ∈ text.getLast?, isWhiteSpace c = false) : trim text = text := by
  have started : trimStart text = text := by
    cases text with
    | nil => rfl
    | cons c rest => simp [trimStart, front c rfl]
  rw [trim, started, trimEnd]
  cases reversed : text.reverse with
  | nil => simpa using reversed.symm
  | cons c rest =>
      have last : text.getLast? = some c := by rw [List.getLast?_eq_head?_reverse, reversed]; rfl
      rw [List.dropWhile_cons_of_neg (by simp [back c last]), ← reversed, List.reverse_reverse]

end LineShell.Text

namespace LineShell

def trimmed (text : String) : String :=
  String.ofList (Text.trim text.toList)

def trimmedEnd (text : String) : String :=
  String.ofList (Text.trimEnd text.toList)

end LineShell
