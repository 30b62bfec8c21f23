/-!
Numbers with a binary point that fit into words of 64 bits: how they are read, and their digits, which are
exact.
-/

namespace LineShell

/-- A number: a mantissa times a power of two, or one that is none. -/
inductive Floating
  | finite (isNegative : Bool) (mantissa : Nat) (exponent : Int)
  | infinite (isNegative : Bool)
  | undefined (isNegative : Bool)
deriving DecidableEq, Repr

namespace Floating

/-- A quotient rounded to the nearest number, of two equally near ones to the even one. -/
def roundDiv (numerator denominator : Nat) : Nat :=
  let quotient := numerator / denominator
  let rest := numerator % denominator
  if 2 * rest < denominator || 2 * rest = denominator && quotient % 2 = 0 then quotient
  else quotient + 1

/-- Two numbers in the proportion of a fraction times a power of a base. -/
def scaled (base : Nat) (power : Int) (numerator denominator : Nat) : Nat × Nat :=
  match power with
  | .ofNat power => (numerator * Nat.pow base power, denominator)
  | .negSucc power => (numerator, denominator * Nat.pow base (power + 1))

def precision : Nat := 53

def leastExponent : Int := -1074

/-- The number nearest to a fraction, and whether the fraction is too great or too small for any that
is as exact as others. -/
def ofFraction (isNegative : Bool) (numerator denominator : Nat) : Floating × Bool :=
  if numerator = 0 then (.finite isNegative 0 0, false)
  else
    let guess : Int := numerator.log2 - denominator.log2 - (precision - 1 : Nat)
    let (top, bottom) := scaled 2 (-guess) numerator denominator
    let exponent := if top < bottom * Nat.pow 2 (precision - 1) then guess - 1 else guess
    let exponent := max exponent leastExponent
    let (top, bottom) := scaled 2 (-exponent) numerator denominator
    let mantissa := roundDiv top bottom
    if 1024 ≤ mantissa.log2 + exponent then (.infinite isNegative, true)
    else if mantissa = Nat.pow 2 precision then
      (.finite isNegative (Nat.pow 2 (precision - 1)) (exponent + 1), false)
    else
      let isSmall := mantissa < Nat.pow 2 (precision - 1) && top % bottom ≠ 0
      (.finite isNegative mantissa exponent, isSmall)

/-! ## Reading -/

/-- A number at the start of a text: there may be none, and it may be out of range. -/
structure Reading where
  value : Floating
  isNone : Bool := false
  isOutOfRange : Bool := false
  rest : List Char

def digitValue (c : Char) : Nat :=
  if c.isDigit then c.toNat - '0'.toNat else c.toLower.toNat - 'a'.toNat + 10

def isHexDigit (c : Char) : Bool :=
  c.isDigit || 'a' ≤ c.toLower && c.toLower ≤ 'f'

def valueOf (base : Nat) (digits : List Char) : Nat :=
  digits.foldl (fun value c => value * base + digitValue c) 0

/-- The digits at the start of a text, before and behind a point, and what follows them. -/
def takeDigits (isDigit : Char → Bool) (text : List Char) : List Char × List Char × List Char :=
  let whole := text.takeWhile isDigit
  match text.drop whole.length with
  | '.' :: rest =>
      let part := rest.takeWhile isDigit
      if whole.isEmpty && part.isEmpty then ([], [], text)
      else (whole, part, rest.drop part.length)
  | rest => (whole, [], rest)

/-- The exponent behind a letter, if there is one, and what follows it. -/
def takeExponent (letter : Char) (text : List Char) : Int × List Char :=
  match text with
  | c :: rest =>
      if c.toLower ≠ letter then (0, text)
      else
        let (isNegative, digits) := match rest with
          | '-' :: digits => (true, digits)
          | '+' :: digits => (false, digits)
          | digits => (false, digits)
        let shown := digits.takeWhile Char.isDigit
        if shown.isEmpty then (0, text)
        else
          let size : Int := valueOf 10 shown
          (if isNegative then -size else size, digits.drop shown.length)
  | [] => (0, [])

/-- The number that digits and an exponent make, where no great power has to be taken. -/
def ofDigits (isNegative : Bool) (base : Nat) (digits : List Char) (power : Int) : Floating × Bool :=
  let value := valueOf base digits
  if value = 0 then (.finite isNegative 0 0, false)
  else
    let size : Int := digits.length + power
    if 5000 < size then (.infinite isNegative, true)
    else if size < -5000 then (.finite isNegative 0 0, true)
    else
      let (top, bottom) := scaled (if base = 16 then 2 else 10) power value 1
      ofFraction isNegative top bottom

/-- The words for numbers that are none, without regard to case, the longer one first. -/
def startsWith (word : String) (text : List Char) : Bool :=
  word.toList.isPrefixOf (text.map Char.toLower)

/-- What follows the parentheses behind a word, if there are any. -/
def afterParentheses (text : List Char) : List Char :=
  match text with
  | '(' :: inside =>
      match inside.dropWhile fun c => c.isAlphanum || c = '_' with
      | ')' :: rest => rest
      | _ => text
  | _ => text

def ofUnsigned (isNegative : Bool) (text : List Char) : Option Reading :=
  if startsWith "infinity" text then some { value := .infinite isNegative, rest := text.drop 8 }
  else if startsWith "inf" text then some { value := .infinite isNegative, rest := text.drop 3 }
  else if startsWith "nan" text then
    some { value := .undefined isNegative, rest := afterParentheses (text.drop 3) }
  else
    let (whole, part, rest) :=
      if startsWith "0x" text then takeDigits isHexDigit (text.drop 2) else ([], [], text)
    if !whole.isEmpty || !part.isEmpty then
      let (power, rest) := takeExponent 'p' rest
      let (value, isOutOfRange) :=
        ofDigits isNegative 16 (whole ++ part) (power - 4 * part.length)
      some { value, isOutOfRange, rest }
    else
      let (whole, part, rest) := takeDigits Char.isDigit text
      if whole.isEmpty && part.isEmpty then none
      else
        let (power, rest) := takeExponent 'e' rest
        let (value, isOutOfRange) := ofDigits isNegative 10 (whole ++ part) (power - part.length)
        some { value, isOutOfRange, rest }

def read (text : List Char) : Reading :=
  let start := text.dropWhile fun c => c = ' ' || '\t' ≤ c && c ≤ '\r'
  let found := match start with
    | '-' :: rest => ofUnsigned true rest
    | '+' :: rest => ofUnsigned false rest
    | rest => ofUnsigned false rest
  found.getD { value := .finite false 0 0, isNone := true, rest := text }

/-! ## Digits -/

def fraction (mantissa : Nat) (exponent : Int) : Nat × Nat :=
  scaled 2 exponent mantissa 1

def digitsOf (base value : Nat) : List Char :=
  Nat.toDigits base value

/-- The digits of a number with so many behind the point. -/
def fixed (places : Nat) (mantissa : Nat) (exponent : Int) : List Char × List Char :=
  let (top, bottom) := fraction mantissa exponent
  let digits := (digitsOf 10 (roundDiv (top * Nat.pow 10 places) bottom)).leftpad (places + 1) '0'
  (digits.take (digits.length - places), digits.drop (digits.length - places))

/-- The power of ten that a fraction is no less than. -/
def magnitude (top bottom : Nat) : Int :=
  if bottom ≤ top then (digitsOf 10 (top / bottom)).length - 1
  else
    let least := (digitsOf 10 bottom).length - (digitsOf 10 top).length
    if bottom ≤ top * Nat.pow 10 least then -(least : Int) else -(least + 1 : Int)

/-- The first digits of a number, one and so many more, and the power of ten of the first. -/
def scientific (places : Nat) (mantissa : Nat) (exponent : Int) : List Char × Int :=
  if mantissa = 0 then (List.replicate (places + 1) '0', 0)
  else
    let (top, bottom) := fraction mantissa exponent
    let power := magnitude top bottom
    let (top, bottom) := scaled 10 (places - power) top bottom
    let digits := digitsOf 10 (roundDiv top bottom)
    if digits.length = places + 1 then (digits, power) else (digits.dropLast, power + 1)

/-- The digits of a mantissa in base sixteen: one before the point and those behind it, and the power of
two. Without a number of places there are as many as it takes. -/
def hexadecimal (places : Option Nat) (mantissa : Nat) (exponent : Int) :
    List Char × List Char × Int :=
  if mantissa = 0 then (['0'], List.replicate (places.getD 0) '0', 0)
  else
    let shift := if exponent = leastExponent then 0 else precision - 1 - mantissa.log2
    let mantissa := mantissa * Nat.pow 2 shift
    let power := exponent - shift + (precision - 1 : Nat)
    let all := 13
    match places with
    | none =>
        let digits := (digitsOf 16 mantissa).leftpad (all + 1) '0'
        (digits.take 1, ((digits.drop 1).reverse.dropWhile (· = '0')).reverse, power)
    | some places =>
        let mantissa :=
          if places < all then roundDiv mantissa (Nat.pow 16 (all - places))
          else mantissa * Nat.pow 16 (places - all)
        let digits := (digitsOf 16 mantissa).leftpad (places + 1) '0'
        (digits.take (digits.length - places), digits.drop (digits.length - places), power)

end Floating

end LineShell
