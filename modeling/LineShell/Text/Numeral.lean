/-!
Decimal numerals: counts as users type them, and numbers set into a column.
-/

namespace LineShell

/-- Why a text is not a count. -/
inductive CountError
  | empty
  | invalidDigit
  | tooLarge
deriving DecidableEq, Repr

def CountError.message : CountError → String
  | .empty => "cannot parse integer from empty string"
  | .invalidDigit => "invalid digit found in string"
  | .tooLarge => "number too large to fit in target type"

namespace Numeral

/-- The greatest count, that of a word of 64 bits. -/
def maxCount : Nat := Nat.pow 2 64 - 1

def digit? (c : Char) : Option Nat :=
  if c.isDigit then some (c.toNat - '0'.toNat) else none

/-- Digits read from the left, on top of the value of those before them. The first fault decides:
a character that is no digit, or a value past the greatest count. -/
def readDigits (value : Nat) : List Char → Except CountError Nat
  | [] => .ok value
  | c :: rest =>
      match digit? c with
      | none => .error .invalidDigit
      | some d =>
          if maxCount < value * 10 + d then .error .tooLarge
          else readDigits (value * 10 + d) rest

/-- A count: one digit or more, with a plus sign before them at will. -/
def readCount : List Char → Except CountError Nat
  | [] => .error .empty
  | ['+'] => .error .invalidDigit
  | '+' :: rest => readDigits 0 rest
  | text => readDigits 0 text

/-- A number set to the right in a column, which it may outgrow. -/
def rightAligned (width : Nat) (n : Nat) : String :=
  String.ofList ((Nat.toDigits 10 n).leftpad width ' ')

end Numeral

end LineShell
