import LineShell.Script.Arithmetic
import LineShell.Script.Escape
import LineShell.Text.Floating
/-!
Operands put into a format, as `printf` of the script language does it.
-/

namespace LineShell.Script

/-- How a directive of a format sets its operand. -/
structure Directive where
  flags : List Char := []
  width : Nat := 0
  precision : Option Nat := none
  conversion : Char
  text : List Char := []
  /-- What follows a count in digits up to the conversion, if a star does: then no rule fits. -/
  stray : Option (List Char) := none
deriving DecidableEq, Repr

namespace Directive

variable (directive : Directive)

def has (flag : Char) : Bool :=
  directive.flags.contains flag

def largestCount : Nat := Nat.pow 2 31 - 1

def isTooLarge : Bool :=
  largestCount < directive.width || directive.precision.any (largestCount < ·)

def pad (text : List Char) : List Char :=
  let blanks := List.replicate (directive.width - text.length) ' '
  if directive.has '-' then text ++ blanks else blanks ++ text

def setText (text : List Char) : List Char :=
  directive.pad (match directive.precision with
    | none => text
    | some precision => text.take precision)

def sign (isNegative : Bool) : List Char :=
  if isNegative then ['-'] else if directive.has '+' then ['+']
  else if directive.has ' ' then [' '] else []

/-- The zeros that a directive asks for between a sign and digits, if these take up so many places. -/
def zeros (size : Nat) : List Char :=
  if directive.has '0' && !directive.has '-' then List.replicate (directive.width - size) '0' else []

/-! ## Integers -/

/-- The digits of a number; with a precision of zero, zero has none. -/
def digits (base size : Nat) : List Char :=
  if size = 0 && directive.precision = some 0 then [] else Nat.toDigits base size

/-- A number with its sign, filled up with zeros as far as the directive asks for it. -/
def setDigits (sign digits : List Char) : List Char :=
  match directive.precision with
  | some precision => directive.pad (sign ++ digits.leftpad precision '0')
  | none => directive.pad (sign ++ directive.zeros (sign.length + digits.length) ++ digits)

def setInteger (value : Int) : List Char :=
  let bits := Arithmetic.bits value
  let mark (text : String) : List Char := if directive.has '#' && bits ≠ 0 then text.toList else []
  match directive.conversion with
  | 'd' | 'i' => directive.setDigits (directive.sign (value < 0)) (directive.digits 10 value.natAbs)
  | 'o' =>
      let digits := directive.digits 8 bits
      let least := directive.precision.getD 0
      let needsZero := directive.has '#' && digits.head? ≠ some '0' && least ≤ digits.length
      directive.setDigits [] (if needsZero then '0' :: digits else digits)
  | 'x' => directive.setDigits (mark "0x") (directive.digits 16 bits)
  | 'X' => directive.setDigits (mark "0X") ((directive.digits 16 bits).map Char.toUpper)
  | _ => directive.setDigits [] (directive.digits 10 bits)

/-! ## Numbers with a point -/

/-- Digits before and behind a point, which is left out before nothing unless it is asked for. -/
def pointed (whole part : List Char) : List Char :=
  if part.isEmpty && !directive.has '#' then whole else whole ++ '.' :: part

/-- An exponent behind a letter, with its sign and so many digits at least. -/
def exponent (letter : Char) (least : Nat) (power : Int) : List Char :=
  letter :: (if power < 0 then '-' else '+') :: (Nat.toDigits 10 power.natAbs).leftpad least '0'

def scientific (places : Nat) (strips : Bool) (mantissa : Nat) (power : Int) : List Char :=
  let (digits, size) := Floating.scientific places mantissa power
  directive.pointed (digits.take 1) (strip strips (digits.drop 1)) ++ exponent 'e' 2 size
where
  /-- Digits behind a point without the zeros at their end. -/
  strip (strips : Bool) (part : List Char) : List Char :=
    if strips then (part.reverse.dropWhile (· = '0')).reverse else part

def fixed (places : Nat) (strips : Bool) (mantissa : Nat) (power : Int) : List Char :=
  let (whole, part) := Floating.fixed places mantissa power
  directive.pointed whole (scientific.strip strips part)

/-- A number in so many digits, with an exponent if it is very great or small. -/
def general (mantissa : Nat) (power : Int) : List Char :=
  let digits := max 1 (directive.precision.getD 6)
  let size := (Floating.scientific (digits - 1) mantissa power).2
  let strips := !directive.has '#'
  if -4 ≤ size && size < digits then
    directive.fixed (digits - 1 - size).toNat strips mantissa power
  else directive.scientific (digits - 1) strips mantissa power

def hexadecimal (mantissa : Nat) (power : Int) : List Char :=
  let (whole, part, size) := Floating.hexadecimal directive.precision mantissa power
  directive.pointed whole part ++ exponent 'p' 1 size

def setFloating (value : Floating) : List Char :=
  let isUpper := directive.conversion.isUpper
  let set (isNegative : Bool) (start body : List Char) (isNumber : Bool) : List Char :=
    let start := directive.sign isNegative ++ start
    let zeros := if isNumber then directive.zeros (start.length + body.length) else []
    let text := start ++ zeros ++ body
    directive.pad (if isUpper then text.map Char.toUpper else text)
  match value with
  | .infinite isNegative => set isNegative [] "inf".toList false
  | .undefined isNegative => set isNegative [] "nan".toList false
  | .finite isNegative mantissa power =>
      match directive.conversion.toLower with
      | 'e' => set isNegative [] (directive.scientific (directive.precision.getD 6) false mantissa power) true
      | 'f' => set isNegative [] (directive.fixed (directive.precision.getD 6) false mantissa power) true
      | 'g' => set isNegative [] (directive.general mantissa power) true
      | _ => set isNegative ['0', 'x'] (directive.hexadecimal mantissa power) true

end Directive

/-! ## Operands -/

/-- What putting operands into a format has come to. -/
structure Printed where
  pieces : List (List Char) := []
  operands : List String
  warnings : List String := []
  /-- What ends the formatting before its time. -/
  fault : Option String := none
  /-- An operand asks for no more output. -/
  stopped : Bool := false
deriving Repr

namespace Printed

variable (printed : Printed)

def add (text : List Char) : Printed :=
  { printed with pieces := text :: printed.pieces }

def text : String :=
  String.ofList printed.pieces.reverse.flatten

/-- Takes an operand; where none are left it is empty. -/
def takeOperand : String × Printed :=
  (printed.operands.head?.getD "", { printed with operands := printed.operands.drop 1 })

def check (operand : String) (isNone isOutOfRange : Bool) (rest : List Char) : Printed :=
  let warn (reason : String) : Printed :=
    { printed with warnings := printed.warnings ++ [s!"{operand}: {reason}"] }
  if !rest.isEmpty then
    warn (if isNone then "expected numeric value" else "not completely converted")
  else if isOutOfRange then warn "Numerical result out of range"
  else printed

/-- The character behind a quote at the start of an operand, which stands for its number. -/
def quotedChar? (operand : String) : Option Nat :=
  match operand.toList with
  | '"' :: rest | '\'' :: rest => some (rest.head?.getD '\x00').toNat
  | _ => none

/-- Takes an operand as an integer, of which the sign may be a part of its bits only. -/
def takeInteger (isSigned : Bool) : Int × Printed :=
  match printed.operands with
  | [] => (0, printed)
  | operand :: operands =>
      let printed := { printed with operands }
      match quotedChar? operand with
      | some value => (value, printed)
      | none =>
          let reading := Integer.read true operand.toList
          if isSigned then
            (reading.value,
              printed.check operand reading.isNone reading.isTooLarge reading.rest)
          else
            let bound := 2 * Integer.largest + 1
            let value : Int := if bound < reading.size then bound
              else if reading.isNegative then -reading.size else reading.size
            (value, printed.check operand reading.isNone (bound < reading.size) reading.rest)

def takeFloating : Floating × Printed :=
  match printed.operands with
  | [] => (.finite false 0 0, printed)
  | operand :: operands =>
      let printed := { printed with operands }
      match quotedChar? operand with
      | some value => ((Floating.ofFraction false value 1).1, printed)
      | none =>
          let reading := Floating.read operand.toList
          (reading.value,
            printed.check operand reading.isNone reading.isOutOfRange reading.rest)

end Printed

/-- A count in a directive, with what is out of place behind its digits. -/
structure Count where
  value : Int
  stray : List Char := []

/-- Takes a count from the start of a text. It stands there in decimal digits, or is taken from the operands
for a star, as a word of 32 bits holds it. -/
def takeCount (printed : Printed) : List Char → Count × Printed × List Char
  | '*' :: rest =>
      let (value, printed) := printed.takeInteger true
      ({ value := value.bmod (Nat.pow 2 32) }, printed, rest)
  | text =>
      let isCounted (c : Char) : Bool := c.isDigit || c = '*'
      let digits := text.takeWhile Char.isDigit
      ({ value := Floating.valueOf 10 digits, stray := (text.takeWhile isCounted).drop digits.length },
        printed, text.dropWhile isCounted)

/-- The directive after a percent sign, if there is a conversion, and what follows it. -/
def directive? (printed : Printed) (text : List Char) : Option Directive × Printed × List Char :=
  let isFlag (c : Char) : Bool := "#-+ 0".toList.contains c
  let flags := text.takeWhile isFlag
  let (width, printed, rest) := takeCount printed (text.dropWhile isFlag)
  let (precision, printed, rest) : Option Count × Printed × List Char := match rest with
    | '.' :: rest =>
        let (precision, printed, rest) := takeCount printed rest
        (some precision, printed, rest)
    | rest => (none, printed, rest)
  match rest with
  | [] => (none, printed, [])
  | conversion :: rest =>
      let start := text.take (text.length - rest.length - 1)
      let flags := if width.value < 0 then '-' :: flags else flags
      let written := '%' :: (start ++ [conversion])
      let directive : Directive :=
        { flags, width := width.value.natAbs, conversion, text := written }
      if width.stray ≠ [] then
        let stray := (start.dropWhile isFlag).dropWhile Char.isDigit
        (some { directive with stray := some stray }, printed, rest)
      else match precision with
        | none => (some directive, printed, rest)
        | some count =>
            let precision := if count.value < 0 then none else some count.value.toNat
            let stray := if count.stray = [] then none else some count.stray
            (some { directive with precision, stray }, printed, rest)

namespace Directive

variable (directive : Directive)

/-- The letter in front of the conversion of an integer, which asks for a wide one. -/
def widening : List Char :=
  if "diouxX".toList.contains directive.conversion then ['l'] else []

/-- What stands for a directive that no rule fits: its flags and counts in their own order, and the rest of
it as it is. -/
def setStray (stray : List Char) : List Char :=
  let flag (c : Char) (isShown : Bool) : List Char := if directive.has c && isShown then [c] else []
  let flags := flag '#' true ++ flag '+' true ++ flag ' ' (!directive.has '+') ++ flag '-' true ++
    flag '0' (!directive.has '-')
  let count (number : Nat) : List Char := Nat.toDigits 10 number
  let width := if directive.width = 0 then [] else count directive.width
  let precision := match directive.precision with
    | none => []
    | some precision => '.' :: count precision
  let conversion := if directive.conversion = 'b' then 's' else directive.conversion
  '%' :: (flags ++ width ++ precision ++ stray ++ directive.widening ++ [conversion])

end Directive

/-- Adds what a directive makes of a value, unless it asks for too many places. -/
def Printed.addBy {α : Type} (directive : Directive) (set : Directive → α → List Char) (value : α)
    (printed : Printed) : Printed :=
  if directive.isTooLarge then { printed with fault := some "xvsnprintf failed" }
  else printed.add (match directive.stray with
    | none => set directive value
    | some stray => directive.setStray stray)

def Printed.set (printed : Printed) (directive : Directive) : Printed :=
  match directive.conversion with
  | 's' =>
      let (operand, printed) := printed.takeOperand
      printed.addBy directive Directive.setText operand.toList
  | 'b' =>
      let (operand, printed) := printed.takeOperand
      let (text, stop) := unescape operand.toList
      { printed.addBy directive Directive.setText text with stopped := stop }
  | 'c' =>
      let (operand, printed) := printed.takeOperand
      printed.addBy directive Directive.pad [operand.toList.head?.getD '\x00']
  | conversion =>
      if "di".toList.contains conversion then
        let (value, printed) := printed.takeInteger true
        printed.addBy directive Directive.setInteger value
      else if "ouxX".toList.contains conversion then
        let (value, printed) := printed.takeInteger false
        printed.addBy directive Directive.setInteger value
      else if "aAeEfFgG".toList.contains conversion then
        let (value, printed) := printed.takeFloating
        printed.addBy directive Directive.setFloating value
      else { printed with fault := some (String.ofList directive.text ++ ": invalid directive") }

/-- Puts operands into a format once. Each round takes at least one character. -/
def formatOnce (fuel : Nat) (format : List Char) (printed : Printed) : Printed :=
  match fuel with
  | 0 => printed
  | fuel + 1 =>
      if printed.stopped || printed.fault.isSome then printed
      else match format with
        | [] => printed
        | '\\' :: rest =>
            let escape := readEscape rest
            formatOnce fuel escape.2 (printed.add [escape.1])
        | '%' :: '%' :: rest => formatOnce fuel rest (printed.add ['%'])
        | '%' :: rest =>
            match directive? printed rest with
            | (none, printed, _) => { printed with fault := some "missing format character" }
            | (some directive, printed, rest) => formatOnce fuel rest (printed.set directive)
        | c :: rest => formatOnce fuel rest (printed.add [c])

/-- Puts operands into a format, again and again while any are left and the format takes some. -/
def formatAll (fuel : Nat) (format : List Char) (printed : Printed) : Printed :=
  let once := formatOnce (format.length + 1) format printed
  match fuel with
  | 0 => once
  | fuel + 1 =>
      if once.stopped || once.fault.isSome || once.operands.isEmpty
          || once.operands.length = printed.operands.length then once
      else formatAll fuel format once

def formatted (format : String) (operands : List String) : Printed :=
  formatAll operands.length format.toList { operands }

end LineShell.Script
