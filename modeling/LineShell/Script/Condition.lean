import LineShell.Script.Variable
/-!
The conditions that `test` of the script language decides. A condition is a list of words; what a word
means in it depends on the words behind it.
-/

namespace LineShell.Script

inductive ConditionToken
  | ending
  | opening
  | closing
  | not
  | and
  | or
  | unary
  | binary
  | operand
deriving DecidableEq, Repr

namespace Condition

def binaryOperators : List String :=
  ["=", "!=", "<", ">", "-eq", "-ne", "-ge", "-gt", "-le", "-lt", "-nt", "-ot", "-ef"]

def unaryOperators : List String :=
  ["-r", "-w", "-x", "-e", "-f", "-d", "-c", "-b", "-p", "-u", "-g", "-k", "-s", "-t", "-z", "-n",
    "-h", "-O", "-G", "-L", "-S"]

/-- What the first of some words is. An operator with nothing to work on is an operand, and so is one
that stands before the operator between two operands. -/
def tokenOf : List String → ConditionToken
  | [] => .ending
  | word :: rest =>
      if binaryOperators.contains word then .binary
      else if unaryOperators.contains word then
        match rest with
        | [] => .operand
        | [_] => .unary
        | next :: _ => if binaryOperators.contains next then .operand else .unary
      else match word with
        | "!" => .not
        | "-a" => .and
        | "-o" => .or
        | "(" => if rest.isEmpty then .operand else .opening
        | ")" => .closing
        | _ => .operand

/-- What files are asked for by a condition. -/
structure Probe where
  holds : String → String → Bool
  same : String → String → Bool
  /-- Whether what the first path leads to has changed after what the second leads to. -/
  newer : String → String → Bool

/-- The words of a condition from the one at hand on. -/
abbrev Reader := StateT (List String) (Except String)

def integer (word : String) : Reader Int :=
  match Integer.ofText? false word with
  | some value => return value
  | none => throw s!"Illegal number: {word}"

def compare (probe : Probe) (operator left right : String) : Reader Bool := do
  match operator with
  | "=" => return left = right
  | "!=" => return left ≠ right
  | "<" => return left < right
  | ">" => return right < left
  | "-ef" => return probe.same left right
  | "-nt" => return probe.newer left right
  | "-ot" => return probe.newer right left
  | _ => do
      let left ← integer left
      let right ← integer right
      match operator with
      | "-eq" => return left = right
      | "-ne" => return left ≠ right
      | "-ge" => return right ≤ left
      | "-gt" => return right < left
      | "-le" => return left ≤ right
      | _ => return left < right

def decideUnary (probe : Probe) (operator operand : String) : Reader Bool := do
  match operator with
  | "-z" => return operand = ""
  | "-n" => return operand ≠ ""
  | "-t" => do
      let _ ← integer operand
      return false
  | _ => return probe.holds operator operand

mutual

/-- Reads a condition that starts with a token, up to its last word. -/
def disjunction (probe : Probe) (fuel : Nat) (token : ConditionToken) : Reader Bool :=
  match fuel with
  | 0 => return false
  | fuel + 1 => do
      let left ← conjunction probe fuel token
      let rest := (← get).drop 1
      if tokenOf rest = .or then
        set (rest.drop 1)
        let right ← disjunction probe fuel (tokenOf (rest.drop 1))
        return left || right
      else return left

def conjunction (probe : Probe) (fuel : Nat) (token : ConditionToken) : Reader Bool :=
  match fuel with
  | 0 => return false
  | fuel + 1 => do
      let left ← negation probe fuel token
      let rest := (← get).drop 1
      if tokenOf rest = .and then
        set (rest.drop 1)
        let right ← conjunction probe fuel (tokenOf (rest.drop 1))
        return left && right
      else return left

def negation (probe : Probe) (fuel : Nat) (token : ConditionToken) : Reader Bool :=
  match fuel with
  | 0 => return false
  | fuel + 1 => do
      if token = .not then
        let rest := (← get).drop 1
        if rest ≠ [] then set rest
        return !(← negation probe fuel (tokenOf rest))
      else primary probe fuel token

def primary (probe : Probe) (fuel : Nat) (token : ConditionToken) : Reader Bool :=
  match fuel with
  | 0 => return false
  | fuel + 1 => do
      let words ← get
      match token, words with
      | .ending, _ | _, [] => return false
      | .opening, _ :: inside => do
          set inside
          if tokenOf inside = .closing then return false
          else
            let result ← disjunction probe fuel (tokenOf inside)
            let rest := (← get).drop 1
            set rest
            if tokenOf rest = .closing then return result else throw "closing paren expected"
      | .unary, operator :: rest => do
          set rest
          match rest with
          | [] => throw s!"{operator}: argument expected"
          | operand :: _ => decideUnary probe operator operand
      | _, left :: rest =>
          match tokenOf rest, rest with
          | .binary, [operator] => throw s!"{operator}: argument expected"
          | .binary, operator :: right :: _ => do
              set (rest.drop 1)
              compare probe operator left right
          | _, _ => return left ≠ ""

end

def refuse {α : Type} (word reason : String) : Except String α :=
  .error (if word = "" then reason else s!"{word}: {reason}")

def decideFrom (probe : Probe) (token : ConditionToken) (words : List String) :
    Except String Bool := do
  let (result, rest) ← (disjunction probe (6 * (words.length + 2)) token).run words
  match rest with
  | word :: _ :: _ => refuse word "unexpected operator"
  | _ => return result

/-- Decides the condition of some words, or its contrary. Three or four words are first looked at for an
operator in the middle, outer parentheses and a negation. -/
def decideAs (probe : Probe) (wanted : Bool) (words : List String) : Except String Bool :=
  let decided (token : ConditionToken) (words : List String) : Except String Bool := do
    return (← decideFrom probe token words) = wanted
  match words with
  | [] => .ok (!wanted)
  | [left, operator, right] =>
      if binaryOperators.contains operator then decided .operand words
      else if left = "(" && right = ")" then decided (tokenOf [operator]) [operator]
      else if left = "!" then decideAs probe false [operator, right]
      else decided (tokenOf words) words
  | [first, second, third, last] =>
      if first = "(" && last = ")" then decided (tokenOf [second, third]) [second, third]
      else if first = "!" then decideAs probe false [second, third, last]
      else decided (tokenOf words) words
  | words => decided (tokenOf words) words

def decide (probe : Probe) (words : List String) : Except String Bool :=
  decideAs probe true words

end Condition

end LineShell.Script
