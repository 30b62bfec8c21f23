import LineShell.Script.Variable
/-!
Integer expressions. They are calculated while they are read, so that a fault in one shows only after what
stands before it has been done. The numbers are words of 64 bits and wrap around.
-/

namespace LineShell.Script

inductive BinaryOperator
  | multiply | divide | remainder
  | add | subtract
  | shiftLeft | shiftRight
  | less | lessOrEqual | greater | greaterOrEqual
  | equal | notEqual
  | bitAnd | bitXor | bitOr
deriving DecidableEq, Repr

namespace BinaryOperator

def level : BinaryOperator → Nat
  | multiply | divide | remainder => 0
  | add | subtract => 1
  | shiftLeft | shiftRight => 2
  | less | lessOrEqual | greater | greaterOrEqual => 3
  | equal | notEqual => 4
  | bitAnd => 5
  | bitXor => 6
  | bitOr => 7

def levels : Nat := 8

end BinaryOperator

/-- Why an expression comes to nothing. -/
inductive ArithmeticFault
  | expectingPrimary
  | expectingParenthesis
  | expectingColon
  | expectingEnd
  | divisionByZero
deriving DecidableEq, Repr

def ArithmeticFault.message : ArithmeticFault → String
  | expectingPrimary => "expecting primary"
  | expectingParenthesis => "expecting ')'"
  | expectingColon => "expecting ':'"
  | expectingEnd => "expecting EOF"
  | divisionByZero => "division by zero"

namespace Arithmetic

/-! ## Words of 64 bits -/

def wrap (value : Int) : Int :=
  value.bmod (Nat.pow 2 64)

def bits (value : Int) : Nat :=
  (value % Nat.pow 2 64).toNat

def ofBool (value : Bool) : Int :=
  if value then 1 else 0

/-- The least number; its quotient by minus one is no word. -/
def least : Int := -(Nat.pow 2 63)

/-- What an operator makes of two numbers, if the second is no zero that divides. -/
def apply (operator : BinaryOperator) (left right : Int) : Int :=
  match operator with
  | .multiply => wrap (left * right)
  | .divide => wrap (left.tdiv right)
  | .remainder => wrap (left.tmod right)
  | .add => wrap (left + right)
  | .subtract => wrap (left - right)
  | .shiftLeft => wrap (left * Int.pow 2 (bits right % 64))
  | .shiftRight => left / Int.pow 2 (bits right % 64)
  | .less => ofBool (left < right)
  | .lessOrEqual => ofBool (left ≤ right)
  | .greater => ofBool (right < left)
  | .greaterOrEqual => ofBool (right ≤ left)
  | .equal => ofBool (left = right)
  | .notEqual => ofBool (left ≠ right)
  | .bitAnd => wrap (bits left &&& bits right : Nat)
  | .bitXor => wrap (bits left ^^^ bits right : Nat)
  | .bitOr => wrap (bits left ||| bits right : Nat)

/-! ## Tokens -/

inductive Token
  | ending
  | number (value : Int)
  | variable (name : String)
  /-- An assignment, which may apply an operator to the old value. -/
  | assign (operator : Option BinaryOperator)
  | binary (operator : BinaryOperator)
  | and | or | not | bitNot
  | opening | closing
  | question | colon
  | unknown
deriving DecidableEq, Repr

/-- The spellings of the operators, the longer before the shorter ones that start like them. -/
def spellings : List (String × Token) :=
  [ ("<<=", .assign (some .shiftLeft)), (">>=", .assign (some .shiftRight)),
    ("<<", .binary .shiftLeft), (">>", .binary .shiftRight),
    ("<=", .binary .lessOrEqual), (">=", .binary .greaterOrEqual),
    ("==", .binary .equal), ("!=", .binary .notEqual), ("&&", .and), ("||", .or),
    ("*=", .assign (some .multiply)), ("/=", .assign (some .divide)),
    ("%=", .assign (some .remainder)), ("+=", .assign (some .add)),
    ("-=", .assign (some .subtract)), ("&=", .assign (some .bitAnd)),
    ("^=", .assign (some .bitXor)), ("|=", .assign (some .bitOr)),
    ("<", .binary .less), (">", .binary .greater), ("=", .assign none), ("!", .not),
    ("*", .binary .multiply), ("/", .binary .divide), ("%", .binary .remainder),
    ("+", .binary .add), ("-", .binary .subtract), ("&", .binary .bitAnd),
    ("^", .binary .bitXor), ("|", .binary .bitOr), ("~", .bitNot), ("(", .opening),
    (")", .closing), ("?", .question), (":", .colon) ]

/-- The token at the start of a text, and what follows it. -/
def next (text : List Char) : Token × List Char :=
  match text.dropWhile fun c => c = ' ' || c = '\t' || c = '\n' with
  | [] => (.ending, [])
  | text@(c :: rest) =>
      if c.isDigit then
        let (value, rest) := Integer.unsigned text
        (.number (min value Integer.largest : Nat), rest)
      else if isNameStart c then
        (.variable (String.ofList (text.takeWhile isNameChar)), text.dropWhile isNameChar)
      else
        match spellings.find? fun (spelling, _) => spelling.toList.isPrefixOf text with
        | some (spelling, token) => (token, text.drop spelling.length)
        | none => (.unknown, c :: rest)

/-! ## Calculation -/

/-- What a part of an expression comes to, with the token behind it and the text behind that. -/
structure Result where
  value : Int
  last : Token
  rest : List Char

def refuse {α : Type} (text : String) (fault : ArithmeticFault) : Action α :=
  fail ("arithmetic expression: " ++ fault.message ++ ": \"" ++ text ++ "\"")

/-- The number that a variable holds; without a value it is zero. -/
def numberOf (name : String) : Action Int := do
  anyNumber (((← get).value? name).getD "")

def calculate (text : String) (operator : BinaryOperator) (left right : Int) : Action Int :=
  if (operator = .divide || operator = .remainder) && right = 0 then refuse text .divisionByZero
  else if (operator = .divide || operator = .remainder) && left = least && right = -1 then
    Action.finish (.killed Kernel.Signal.floatingPoint)
  else return apply operator left right

mutual

/-- An assignment or a value, from its first token on. Nothing is looked up or set if it is `skipped`. -/
def assignment (fuel : Nat) (text : String) (skipped : Bool) (token : Token) (rest : List Char) :
    Action Result :=
  match fuel with
  | 0 => refuse text .expectingPrimary
  | fuel + 1 => do
      let (operator, behind) := next rest
      match token, operator with
      | .variable name, .assign operator => do
          let (first, behind) := next behind
          let result ← assignment fuel text skipped first behind
          if skipped then return result
          else
            let value ← match operator with
              | none => pure result.value
              | some operator => do calculate text operator (← numberOf name) result.value
            storeVariable name (some (toString value)) false
            return { result with value }
      | _, _ => conditional fuel text skipped token operator behind

def conditional (fuel : Nat) (text : String) (skipped : Bool) (token operator : Token)
    (rest : List Char) : Action Result :=
  match fuel with
  | 0 => refuse text .expectingPrimary
  | fuel + 1 => do
      let condition ← disjunction fuel text skipped token operator rest
      if condition.last ≠ .question then return condition
      else
        let (token, rest) := next condition.rest
        let first ← assignment fuel text (skipped || condition.value = 0) token rest
        if first.last ≠ .colon then refuse text .expectingColon
        else
          let (token, rest) := next first.rest
          let (operator, rest) := next rest
          let second ←
            conditional fuel text (skipped || condition.value ≠ 0) token operator rest
          return { second with
            value := if condition.value ≠ 0 then first.value else second.value }

def disjunction (fuel : Nat) (text : String) (skipped : Bool) (token operator : Token)
    (rest : List Char) : Action Result :=
  match fuel with
  | 0 => refuse text .expectingPrimary
  | fuel + 1 => do
      let left ← conjunction fuel text skipped token operator rest
      if left.last ≠ .or then return left
      else
        let (token, rest) := next left.rest
        let (operator, rest) := next rest
        let right ← disjunction fuel text (skipped || left.value ≠ 0) token operator rest
        return { right with value := ofBool (left.value ≠ 0 || right.value ≠ 0) }

def conjunction (fuel : Nat) (text : String) (skipped : Bool) (token operator : Token)
    (rest : List Char) : Action Result :=
  match fuel with
  | 0 => refuse text .expectingPrimary
  | fuel + 1 => do
      let left ← operation fuel text skipped token operator rest
      if left.last ≠ .and then return left
      else
        let (token, rest) := next left.rest
        let (operator, rest) := next rest
        let right ← conjunction fuel text (skipped || left.value = 0) token operator rest
        return { right with value := ofBool (left.value ≠ 0 && right.value ≠ 0) }

def operation (fuel : Nat) (text : String) (skipped : Bool) (token operator : Token)
    (rest : List Char) : Action Result :=
  match fuel with
  | 0 => refuse text .expectingPrimary
  | fuel + 1 => do
      let left ← operand fuel text skipped token operator rest
      match left.last with
      | .binary operator =>
          operationFrom fuel text skipped left.value operator BinaryOperator.levels left.rest
      | _ => return left

/-- Goes on behind an operand and an operator, up to an operator that binds no tighter than a level. -/
def operationFrom (fuel : Nat) (text : String) (skipped : Bool) (left : Int)
    (operator : BinaryOperator) (level : Nat) (rest : List Char) : Action Result :=
  match fuel with
  | 0 => refuse text .expectingPrimary
  | fuel + 1 => do
      let (token, rest) := next rest
      let (behind, rest) := next rest
      let right ← operand fuel text skipped token behind rest
      let right ← match right.last with
        | .binary tighter =>
            if tighter.level < operator.level then
              operationFrom fuel text skipped right.value tighter operator.level right.rest
            else pure right
        | _ => pure right
      let value ← if skipped then pure right.value else calculate text operator left right.value
      match right.last with
      | .binary behind =>
          if level ≤ behind.level then return { right with value }
          else operationFrom fuel text skipped value behind level right.rest
      | _ => return { right with value }

/-- An operand, given its first token and the one behind that. -/
def operand (fuel : Nat) (text : String) (skipped : Bool) (token behind : Token)
    (rest : List Char) : Action Result :=
  match fuel with
  | 0 => refuse text .expectingPrimary
  | fuel + 1 => do
      let signed (change : Int → Int) : Action Result := do
        let (after, rest) := next rest
        let result ← operand fuel text skipped behind after rest
        return { result with value := change result.value }
      match token with
      | .opening => do
          let inside ← assignment fuel text skipped behind rest
          if inside.last ≠ .closing then refuse text .expectingParenthesis
          else
            let (last, rest) := next inside.rest
            return { inside with last, rest }
      | .number value => return { value, last := behind, rest }
      | .variable name => do
          let value ← if skipped then pure 0 else numberOf name
          return { value, last := behind, rest }
      | .binary .add => signed id
      | .binary .subtract => signed fun value => wrap (-value)
      | .not => signed fun value => ofBool (value = 0)
      | .bitNot => signed fun value => -value - 1
      | _ => refuse text .expectingPrimary

end

end Arithmetic

def calculation (text : String) : Action Int := do
  let (token, rest) := Arithmetic.next text.toList
  let result ← Arithmetic.assignment (16 * (text.length + 2)) text false token rest
  if result.last ≠ .ending then Arithmetic.refuse text .expectingEnd else return result.value

end LineShell.Script
