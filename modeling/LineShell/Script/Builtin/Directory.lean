import LineShell.Script.Lookup
import LineShell.Script.Operand
/-!
The directory a script works in. A script keeps the way by which it has come there, so that the step up
from a directory reached through a link leads back to where the link stands. What permissions new files do
not get is also kept here.
-/

namespace LineShell.Script

/-! ## Paths -/

/-- A path, its last character first, without its last step. Down to `floor` characters nothing goes. -/
def withoutStep (floor : Nat) (reversed : List Char) : List Char :=
  let rest := (reversed.drop 1).dropWhile (· ≠ '/')
  if rest.length < floor then reversed.drop (reversed.length - floor) else rest

/-- Where steps lead from a path that ends with a separator; both paths have their last character
first. -/
def followSteps (floor : Nat) (reversed : List Char) : List (List Char) → List Char
  | [] => reversed
  | [] :: rest | ['.'] :: rest => followSteps floor reversed rest
  | ['.', '.'] :: rest => followSteps floor (withoutStep floor reversed) rest
  | name :: rest => followSteps floor ('/' :: (name.reverse ++ reversed)) rest

/-- The path that a text leads to from a directory, as the texts say it and whatever the files are. Two
separators at the start of a path are kept, more are one. -/
def logicalPath (directory text : String) : String :=
  let chars := text.toList
  let start := match chars with
    | '/' :: '/' :: c :: _ => if c = '/' then ['/'] else ['/', '/']
    | ['/', '/'] => ['/', '/']
    | '/' :: _ => ['/']
    | _ =>
        let directory := directory.toList.reverse
        if directory.head? = some '/' then directory else '/' :: directory
  let floor := match start.reverse with
    | '/' :: '/' :: _ => 2
    | _ => 1
  let path := followSteps floor start (Text.fields '/' chars)
  String.ofList (if path.length > floor then path.drop 1 else path).reverse

/-! ## Changing it -/

def physicalDirectory : Action String :=
  Action.ask fun id machine =>
    Octets.ofText (((machine.task? id).map (·.workingDir)).getD [] : Location).path.text

/-- Has the process work in the directory at a path, if there is one. -/
def changeTo (path : String) : Action Bool :=
  Action.request fun id machine =>
    match machine.task? id with
    | none => (false, machine)
    | some task =>
        match (machine.filesOf id).locate task.workingDir (Octets.toPath path) with
        | .error _ => (false, machine)
        | .ok location =>
            if (machine.filesOf id).isDirectory location then
              (true, machine.updateTask id fun task => { task with workingDir := location })
            else (false, machine)

/-- Goes to a directory and keeps the way there, which is that of the directory itself if the path is
not to be taken at its word. -/
def enter (text : String) (isPhysical : Bool) : Action Bool := do
  let old := (← get).directory
  let path := if isPhysical then text else logicalPath old text
  if ← changeTo path then
    let directory ← if isPhysical then physicalDirectory else pure path
    setVariable "OLDPWD" (some old) true
    modify fun shell => { shell with directory, isPlaced := isPhysical }
    setVariable "PWD" (some directory) true
    modify fun shell =>
      { shell with tracked := shell.tracked.map fun (name, tracked) =>
          (name, { tracked with isStale := true }) }
    return true
  else return false

def meansPhysical (options : List (Char × Option String)) : Bool :=
  (options.getLast?.map (·.1)) = some 'P'

def isSought (path : String) : Bool :=
  let first := (Text.fields '/' path.toList).head?.getD []
  !(Path.mk path).isAbsolute && first ≠ ['.'] && first ≠ ['.', '.']

/-- The first directory at some paths, each with a note that it is to be shown. -/
def firstDirectory (id : Nat) (machine : Kernel.Machine) (paths : List (String × Bool)) :
    Option (String × Bool) :=
  paths.find? fun (path, _) => (statAt id machine path).toOption = some .directory

def changeDirectory (operands : List String) : Action Nat := do
  let (options, operands) ← takeOptions "LP" "" operands
  let shell ← get
  let (target, isBack) := match operands with
    | [] => ((shell.value? "HOME").getD "", false)
    | "-" :: _ => ((shell.value? "OLDPWD").getD "", true)
    | operand :: _ => (operand, false)
  let wanted := if target = "" then "." else target
  let paths := match if isSought target then shell.value? "CDPATH" else none with
    | none => []
    | some search =>
        (Text.fields ':' search.toList).map fun entry =>
          (Program.Scene.entryPath wanted entry, !entry.isEmpty)
  let found ← Action.ask fun id machine => firstDirectory id machine paths
  let (path, isFound) := found.getD (wanted, false)
  if ← enter path (meansPhysical options) then
    if isBack || isFound then print ((← get).directory ++ "\n")
    return 0
  else fail s!"can't cd to {wanted}"

/-- Looks up the place of the directory, which for the first time sets the variable that tells the way
there. -/
def placeDirectory : Action String := do
  let { directory, isPlaced, .. } ← get
  if !isPlaced then
    modify fun shell => { shell with isPlaced := true }
    setVariable "PWD" (some directory) true
  physicalDirectory

def printDirectory (operands : List String) : Action Nat := do
  let (options, _) ← takeOptions "LP" "" operands
  let directory ← if meansPhysical options then placeDirectory else pure (← get).directory
  print (directory ++ "\n")
  return 0

/-- Whether a text is an absolute path of the directory that the process works in. -/
def isPathOf (id : Nat) (machine : Kernel.Machine) (text : String) : Bool :=
  (Path.mk text).isAbsolute &&
    (machine.task? id).any fun task =>
      match (machine.filesOf id).locate task.workingDir (Octets.toPath text) with
      | .ok location => location = task.workingDir
      | .error _ => false

/-- Takes over the way to the working directory from the variable `PWD` if that is right. -/
def adoptDirectory : Action Unit := do
  let known := (← get).value? "PWD"
  let isRight ← Action.ask fun id machine => known.any (isPathOf id machine)
  let directory ← match known, isRight with
    | some known, true => pure known
    | _, _ => physicalDirectory
  modify fun shell => { shell with directory, isPlaced := !isRight }
  setVariable "PWD" (some directory) true

/-! ## Permissions -/

def partyBits? : Char → Option Nat
  | 'u' => some 0o700
  | 'g' => some 0o070
  | 'o' => some 0o007
  | 'a' => some 0o777
  | _ => none

/-- The permissions that one party has, for all parties. -/
def copiedBits (mode : Nat) (shift : Nat) : Nat :=
  ((mode / Nat.pow 2 shift) % 8) * 0o111

/-- The permissions that a letter stands for, for all parties; some are taken from the permissions that
there are. -/
def permissionBits? (mode : Nat) : Char → Option Nat
  | 'r' => some 0o444
  | 'w' => some 0o222
  | 'x' => some 0o111
  | 'X' => some (if mode &&& 0o111 = 0 then 0 else 0o111)
  | 's' => some 0
  | 'u' => some (copiedBits mode 6)
  | 'g' => some (copiedBits mode 3)
  | 'o' => some (copiedBits mode 0)
  | _ => none

/-- What changes of permissions that stand one behind the other, for the same parties, make of some. -/
def changeMode (fuel : Nat) (old parties mode : Nat) (text : List Char) : Option Nat :=
  match fuel, text with
  | _, [] => some mode
  | 0, _ => none
  | fuel + 1, sign :: rest => do
      let letters := rest.takeWhile (!"+-=".toList.contains ·)
      let bits ← letters.foldlM (fun bits c => return bits ||| (← permissionBits? old c)) 0
      let bits := bits &&& parties
      let mode ← match sign with
        | '+' => some (mode ||| bits)
        | '-' => some (mode &&& (0o777 ^^^ bits))
        | '=' => some ((mode &&& (0o777 ^^^ parties)) ||| bits)
        | _ => none
      changeMode fuel old parties mode (rest.drop letters.length)

/-- What clauses make of permissions, each of them some parties and the changes for these. Nothing may stand
behind the last comma. -/
def applyClauses (old mode : Nat) : List (List Char) → Option Nat
  | [] | [[]] => some mode
  | clause :: rest => do
      let letters := clause.takeWhile fun c => (partyBits? c).isSome
      let parties := if letters.isEmpty then 0o777
        else letters.foldl (fun parties c => parties ||| (partyBits? c).getD 0) 0
      let changes := clause.drop letters.length
      if changes.isEmpty then none
      else applyClauses old (← changeMode changes.length old parties mode changes) rest

def changedMode (old : Nat) (text : String) : Option Nat :=
  applyClauses old old (Text.fields ',' text.toList)

/-- The permissions that are not withheld, in letters. -/
def shownMode (mask : Nat) : String :=
  let mode := 0o777 ^^^ mask
  let letters (shift : Nat) : String :=
    let bits := (mode / Nat.pow 2 shift) % 8
    (if bits &&& 4 ≠ 0 then "r" else "") ++ (if bits &&& 2 ≠ 0 then "w" else "") ++
      (if bits &&& 1 ≠ 0 then "x" else "")
  "u=" ++ letters 6 ++ ",g=" ++ letters 3 ++ ",o=" ++ letters 0

def withhold (operands : List String) : Action Nat := do
  let (options, operands) ← takeOptions "S" "" operands
  let mask ← Action.ask fun id machine => ((machine.task? id).map (·.mask)).getD 0
  match operands with
  | [] => do
      if options.isEmpty then
        print (String.ofList ((Nat.toDigits 8 mask).leftpad 4 '0') ++ "\n")
      else print (shownMode mask ++ "\n")
      return 0
  | operand :: _ => do
      let mask ←
        match operand.toList with
        | [] => pure mask
        | c :: _ =>
            if c.isDigit then
              if operand.toList.all isOctal then
                pure ((Integer.digits 8 0 operand.toList).1 % 0o1000)
              else fail s!"Illegal number: {operand}"
            else
              match changedMode (0o777 ^^^ mask) operand with
              | some mode => pure (0o777 ^^^ mode)
              | none => fail s!"Illegal mode: {operand}"
      Action.request fun id machine =>
        ((), machine.updateTask id fun task => { task with mask })
      return 0

end LineShell.Script
