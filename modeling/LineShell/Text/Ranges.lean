/-!
Sets of code points given by ranges.
-/

namespace LineShell.Text

/-- Ranges of code points, both ends included, in ascending order. -/
abbrev Ranges := List (Nat × Nat)

/-- Whether a code point lies in one of the ranges. The search ends at the first range behind it. -/
def Ranges.contains (ranges : Ranges) (code : Nat) : Bool :=
  match ranges with
  | [] => false
  | (first, last) :: rest =>
      if code < first then false else code ≤ last || contains rest code

end LineShell.Text
