import LineShell.Script.Course
/-!
The course of a script: how statements are evaluated, and how the programs that they start are run. Each
function takes fuel, which bounds how deep they call each other; no script in reach uses it up.
-/

namespace LineShell.Script

open Program (Start)

/-- A document that nothing ends, as which the text before commands that are shown is read. -/
def endlessDocument : PendingDocument :=
  { number := 0, delimiter := ['\x00'], dedents := false, substitutes := true }

/-- The name and the text of a variable that a program is given, if it has a name. -/
def givenVariable? (text : String) : Option (String × String) :=
  let (name, value) := splitAssignment text
  match value with
  | some value => if isName name.toList then some (name, value) else none
  | none => none

def adoptVariables (block : List String) : Action Unit := do
  let set (name value : String) : Action Unit := modify (·.store name (some value) false)
  set "IFS" " \t\n"
  set "OPTIND" "1"
  set "PATH" standardSearchPath
  set "PS1" "# "
  set "PS2" "> "
  set "PS4" "+ "
  for text in block do
    if let some (name, value) := givenVariable? text then storeVariable name (some value) true
  set "IFS" " \t\n"
  storeVariable "OPTIND" (some "1") false
  let parent ← Action.ask fun id machine => ((machine.task? id).map (·.parent)).getD 0
  set "PPID" (toString parent)
  adoptDirectory

/-- What the operands of a script's interpreter ask for. -/
structure Invocation where
  givesText : Bool := false
  isLogin : Bool := false
  operands : List String

def takeInvocation (fuel : Nat) (soFar : Invocation) : Action Invocation :=
  match fuel, soFar.operands with
  | fuel + 1, operand :: rest =>
      let take (isOn : Bool) (letters : List Char) : Action Invocation := do
        let operands ← setLetters true isOn letters rest
        takeInvocation fuel
          { givesText := soFar.givesText || letters.contains 'c'
            isLogin := soFar.isLogin || letters.contains 'l'
            operands }
      match operand.toList with
      | ['-', '-'] | ['-'] => return { soFar with operands := rest }
      | '-' :: letters => take true letters
      | '+' :: letters => take false letters
      | _ => return soFar
  | _, _ => return soFar

/-- What a script's interpreter is to do. -/
structure Startup where
  /-- The text of the script, if it is an operand. -/
  text : Option String := none
  isLogin : Bool

def startScript (start : Start) : Action Startup := do
  modify fun shell =>
    { shell with
      self := start.self, source := { descriptor := some 0 }, undecided := optionTable.map (·.1) }
  let invocation ← takeInvocation (start.operands.length + 1) { operands := start.operands }
  let isLogin := invocation.isLogin
  let name (operands : List String) : Action Unit :=
    match operands with
    | [] => return
    | self :: arguments => modify fun shell => { shell with self, arguments }
  let { undecided, .. } ← get
  modify fun shell => { shell with undecided := [] }
  if (← get).has "interactive" then
    if undecided.contains "monitor" then modify (·.setOption "monitor" true)
    arrangeTerminalSignals
  match invocation.givesText, invocation.operands with
  | true, [] => fail "-c requires an argument"
  | true, text :: operands => do
      name operands
      refuseControl
      return { text := some text, isLogin }
  | false, [] => do
      modify (·.setOption "stdin" true)
      refuseControl
      return { isLogin }
  | false, path :: arguments => do
      if (← get).has "stdin" then modify fun shell => { shell with arguments := path :: arguments }
      else
        let number ← openSource path
        modify fun shell => { shell with source := { descriptor := some number } }
        name (path :: arguments)
      refuseControl
      return { isLogin }

/-- What is told at the end of a script that is not to end there. -/
def exitHint : String := "\nUse \"exit\" to leave shell.\n"

def exitHints : Nat := 50

mutual

/-- Evaluates a statement; the answer is its status. -/
def evaluate (fuel : Nat) (course : Course) (statement : Statement) : Action Nat :=
  match fuel with
  | 0 => Action.finish (.killed Kernel.Signal.kill)
  | fuel + 1 => do
      Action.pause
      let before ← get
      let (status, counts) ←
        if before.has "noexec" then pure (before.status, false)
        else if statement.isNothing then pure (0, false)
        else do
          runTraps fuel
          evaluateBody fuel course statement
      runTraps fuel
      if counts && !course.isTested && status ≠ 0 && (← get).has "errexit" then throw .ended
      if course.isLast then throw .ended
      return status

/-- Evaluates a statement; the answer is its status, and whether a failure counts as one of the script. -/
def evaluateBody (fuel : Nat) (course : Course) (statement : Statement) : Action (Nat × Bool) :=
  match fuel with
  | 0 => return (0, false)
  | fuel + 1 => do
      let inner : Course := { isTested := course.isTested }
      let tested : Course := { isTested := true }
      let set (counts : Bool) (action : Action Nat) : Action (Nat × Bool) := do
        let status ← action
        Action.setStatus status
        return (status, counts)
      let isSkipping : Action Bool := do return (← get).skip ≠ .nothing
      match statement with
      | .nothing => return (0, false)
      | .simple line assignments words redirects =>
          set true (runSimple fuel course line assignments words redirects)
      | .pipeline stages isBackground => set true (runPipeline fuel course stages isBackground)
      | .negated body => set false do
          let status ← evaluate fuel tested body
          if ← isSkipping then return status else return if status = 0 then 1 else 0
      | .sequence first second => do
          let status ← evaluate fuel inner first
          if ← isSkipping then return (status, false)
          else set false (evaluate fuel course second)
      | .both first second => do
          let status ← evaluate fuel tested first
          if status ≠ 0 || (← isSkipping) then return (status, false)
          else set false (evaluate fuel course second)
      | .either first second => do
          let status ← evaluate fuel tested first
          if status = 0 || (← isSkipping) then return (status, false)
          else set false (evaluate fuel course second)
      | .conditional condition consequence alternative => do
          let status ← evaluate fuel tested condition
          if ← isSkipping then return (status, false)
          else if status = 0 then set false (evaluate fuel course consequence)
          else
            match alternative with
            | some alternative => set false (evaluate fuel course alternative)
            | none => set false (return 0)
      | .loop untilTrue condition body => set false do
          modify fun shell => { shell with loops := shell.loops + 1 }
          let status ← repeatLoop fuel inner untilTrue condition body 0
          modify fun shell => { shell with loops := shell.loops - 1 }
          return status
      | .forEach line name words body => set false do
          modify fun shell => { shell with line }
          let fields ← words.mapM (expandWords (capture fuel))
          modify fun shell => { shell with loops := shell.loops + 1 }
          let status ← repeatFor fuel inner name fields.flatten body 0
          modify fun shell => { shell with loops := shell.loops - 1 }
          return status
      | .choose line subject branches => set false do
          modify fun shell => { shell with line }
          let text ← expandText (capture fuel) { tilde := true } subject
          choose fuel course text branches
      | .redirected line body redirects => do
          modify fun shell => { shell with line }
          let redirected ← redirects.mapM (expandRedirect (capture fuel))
          pushRedirections
          let isSet ← redirectSafely (capture fuel) redirected
          let status ← if isSet then evaluate fuel inner body else pure 2
          popRedirections false
          Action.setStatus status
          return (status, !isSet)
      | .subshell line body redirects =>
          set true (runSubshell fuel course false line body redirects)
      | .background line body redirects =>
          set true (runSubshell fuel course true line body redirects)
      | .function name line body => set false do
          modify fun shell =>
            { shell with
              functions := putNamed name { body, line } shell.functions
              tracked := eraseNamed name shell.tracked }
          return 0

def repeatLoop (fuel : Nat) (course : Course) (untilTrue : Bool) (condition body : Statement)
    (status : Nat) : Action Nat :=
  match fuel with
  | 0 => return status
  | fuel + 1 => do
      let tested ← evaluate fuel { isTested := true } condition
      let skip ← leaveRound
      if skip ≠ .nothing then
        let status := match skip with
          | .function _ => tested
          | _ => status
        if skip.goesOn then repeatLoop fuel course untilTrue condition body status
        else return status
      else if (tested = 0) = untilTrue then return status
      else
        let status ← evaluate fuel course body
        let skip ← leaveRound
        if skip.goesOn then repeatLoop fuel course untilTrue condition body status
        else return status

def repeatFor (fuel : Nat) (course : Course) (name : String) (words : List String)
    (body : Statement) (status : Nat) : Action Nat :=
  match fuel, words with
  | 0, _ | _, [] => return status
  | fuel + 1, word :: words => do
      setVariable name (some word) false
      let status ← evaluate fuel course body
      let skip ← leaveRound
      if skip.goesOn then repeatFor fuel course name words body status else return status

def choose (fuel : Nat) (course : Course) (text : String)
    (branches : List (List Word × Statement)) : Action Nat :=
  match fuel, branches with
  | 0, _ | _, [] => return 0
  | fuel + 1, (patterns, body) :: branches => do
      if ← fitsAny fuel text patterns then
        if body.isNothing || (← get).skip ≠ .nothing then return 0 else evaluate fuel course body
      else choose fuel course text branches

/-- Whether one of some patterns fits; those behind it are not looked at. -/
def fitsAny (fuel : Nat) (text : String) (patterns : List Word) : Action Bool :=
  match fuel, patterns with
  | 0, _ | _, [] => return false
  | fuel + 1, word :: words => do
      let pattern ← expandPattern (capture fuel) word
      if Pattern.fits pattern text.toList then return true else fitsAny fuel text words

/-- Does something as a process of its own, up to its end. -/
def asProcess (fuel : Nat) (body : Action Unit) : Action Empty :=
  match fuel with
  | 0 => Action.finish (.exited 2)
  | fuel + 1 => do
      match ← Action.attempt body with
      | .ok () => endProcess fuel
      | .error interruption => do
          takeBack interruption
          endProcess fuel

/-- Takes back the status that a process had when what has been cut short was started, if that has asked
for the end of the process. -/
def takeBack (interruption : Interruption) : Action Unit :=
  modify fun shell =>
    let isWanted := interruption = .exiting || shell.skip = .function false
    match shell.saved with
    | some status =>
        { shell with status := if isWanted then status else shell.status, saved := none }
    | none => shell

/-- Ends a process, after what it is to do on its exit. -/
def endProcess (fuel : Nat) : Action Empty :=
  match fuel with
  | 0 => Action.finish (.exited 2)
  | fuel + 1 => do
      modify fun shell => { shell with saved := some shell.status }
      unwindRedirections stepLimit 0
      if let some action := (← get).traps.lookup 0 then
        modify fun shell =>
          { shell with traps := shell.traps.filter (·.1 ≠ 0), skip := .nothing, loops := 0 }
        match ← Action.attempt (evaluateText fuel {} action) with
        | .ok _ => takeBack .exiting
        | .error interruption => takeBack interruption
      let _ ← flush
      Action.finish (.exited ((← get).status % 256))

def runTraps (fuel : Nat) : Action Unit :=
  match fuel with
  | 0 => return
  | fuel + 1 => do
      let isPending ← Action.ask fun id machine =>
        (machine.task? id).any fun task => !task.pending.isEmpty
      if isPending && (← get).skip = .nothing then
        let before := (← get).saved
        let status := before.getD (← get).status
        modify fun shell => { shell with saved := some status }
        runPending fuel status
        modify fun shell => { shell with saved := before }

def runPending (fuel : Nat) (status : Nat) : Action Unit :=
  match fuel with
  | 0 => return
  | fuel + 1 => do
      if (← get).skip ≠ .nothing then return
      else
        let signal ← Action.request fun id machine =>
          match ((machine.task? id).map (·.pending)).getD [] with
          | [] => (none, machine)
          | first :: others =>
              let least := others.foldl min first
              (some least, machine.updateTask id fun task =>
                { task with pending := task.pending.filter (· ≠ least) })
        match signal with
        | none => return
        | some signal => do
            match (← get).traps.lookup signal with
            | none | some "" => pure ()
            | some action => do
                let _ ← evaluateText fuel {} action
                if (← get).skip ≠ .function true then Action.setStatus status
            runPending fuel status

/-- Runs a script as a process of its own; the answer is its output. -/
def capture (fuel : Nat) (statement : Statement) : Action String :=
  match fuel with
  | 0 => return ""
  | fuel + 1 => do
      if statement.isNothing then return ""
      else
        let (reader, writer) ← openPipeEnds
        let job ← modifyGet (·.startJob)
        startStage job false do
          closeEnd reader
          moveEnd writer 1
          asProcess fuel do
            let _ ← evaluate fuel { isLast := true } statement
        closeEnd writer
        let text ← readAll stepLimit reader []
        closeEnd reader
        let status ← awaitJob job
        modify fun shell => { shell with substituted := status }
        return text

/-- Evaluates a body in a process of its own, for which to wait unless it runs in the background. -/
def runSubshell (fuel : Nat) (course : Course) (isBackground : Bool) (line : Nat)
    (body : Statement) (redirects : List Redirect) : Action Nat :=
  match fuel with
  | 0 => return 0
  | fuel + 1 => do
      modify fun shell => { shell with line }
      let redirected ← redirects.mapM (expandRedirect (capture fuel))
      let child (isTested : Bool) : Action Empty := asProcess fuel do
        redirectAll (capture fuel) false redirected
        let _ ← evaluate fuel { isTested, isLast := true } body
      if !isBackground && course.isLast && !(← hasTraps) then
        becomeCopy
        Action.leave (child course.isTested)
      else
        let job ← modifyGet (·.startJob)
        startStage job isBackground (child (course.isTested && !isBackground))
        if isBackground then return 0 else awaitJob job

def runPipeline (fuel : Nat) (course : Course) (stages : List Statement) (isBackground : Bool) :
    Action Nat :=
  match fuel with
  | 0 => return 0
  | fuel + 1 => do
      let job ← modifyGet (·.startJob)
      startStages fuel { course with isLast := true } job isBackground none stages
      if isBackground then return 0 else awaitJob job

/-- Starts the stages of a pipeline, the first of which reads from the stage before. -/
def startStages (fuel : Nat) (course : Course) (job : Nat) (isBackground : Bool)
    (before : Option Nat) (stages : List Statement) : Action Unit :=
  match fuel, stages with
  | 0, _ | _, [] => return
  | fuel + 1, stage :: rest => do
      trackFirst stage
      let ends ← if rest.isEmpty then pure none else do pure (some (← openPipeEnds))
      startStage job isBackground do
        if let some (reader, _) := ends then closeEnd reader
        if let some before := before then moveEnd before 0
        if let some (_, writer) := ends then moveEnd writer 1
        asProcess fuel do
          let _ ← evaluate fuel course stage
      if let some before := before then closeEnd before
      if let some (_, writer) := ends then closeEnd writer
      startStages fuel course job isBackground (ends.map (·.1)) rest

def runSimple (fuel : Nat) (course : Course) (line : Nat) (assignments words : List Word)
    (redirects : List Redirect) : Action Nat :=
  match fuel with
  | 0 => return 0
  | fuel + 1 => do
      modify fun shell => { shell with line, substituted := 0 }
      let before ← get
      let capture := capture fuel
      let first ← fillArguments capture [] words
      let resolved ←
        if first.expanded = [] then pure { arguments := first }
        else resolve capture (first.expanded.length + words.length + 1) { arguments := first }
      let (takesAssignments, isExec) := match resolved.command with
        | .builtin name => (assigningBuiltins.contains name, name == "exec")
        | _ => (false, false)
      let all ← expandRest capture takesAssignments resolved.arguments
      let arguments := all.drop resolved.start
      let isHidden := all ≠ [] && resolved.isSpecial ≠ some true
      if isHidden then modify fun shell => { shell with hidden := [] :: shell.hidden }
      let redirected ← redirects.mapM (expandRedirect capture)
      if redirects.isEmpty then pure () else pushRedirections
      let status ←
        if ← redirectSafely capture redirected then do
          let texts ← assignAll capture isHidden (isExec && 1 < arguments.length) assignments
          showCommand fuel (!redirects.isEmpty) (texts ++ all)
          runCommand fuel course resolved arguments
        else do
          Action.setStatus 2
          if resolved.isSpecial = some true then throw .failed
          pure 2
      if redirects.isEmpty then pure () else popRedirections isExec
      unwindRedirections stepLimit before.redirections.length
      unwindSources stepLimit before.outer.length
      unwindHidden stepLimit before.hidden.length
      return status

/-- Shows a command before it runs, if the options say so. The errors of a command with redirections of its
own are not where it is shown. -/
def showCommand (fuel : Nat) (isRedirected : Bool) (words : List String) : Action Unit :=
  match fuel with
  | 0 => return
  | fuel + 1 => do
      let shell ← get
      if shell.has "xtrace" && !shell.isTracing then
        let kept ← if isRedirected then keptErrors else pure none
        modify fun shell => { shell with isTracing := true }
        let mark ← expandPrompt fuel ((shell.value? "PS4").getD "")
        modify fun shell => { shell with isTracing := false }
        let _ ← write (kept.getD 2) (mark ++ " ".intercalate words ++ "\n")

/-- The text that is shown before commands, with what it asks for put in; as it stands, if that cannot be
done. -/
def expandPrompt (fuel : Nat) (text : String) : Action String :=
  match fuel with
  | 0 => return text
  | fuel + 1 => do
      let before ← get
      pushSource { chars := text.toList }
      let result ← Action.attempt do
        let c ← nextUnescaped
        let (lexing, _) ←
          symbols (Parser.nested Parser.depthLimit) (Parser.whole Parser.depthLimit) stepLimit
            { stretch := { rules := .doubleQuoted, isDoubleQuoted := true }
              document := some endlessDocument } c
        checkClosed lexing
        expandText (capture fuel) { quoted := true } lexing.symbols.reverse
      unwindSources stepLimit before.outer.length
      modify fun shell =>
        let { isPushedBack, last, .. } := shell.reading
        { shell with reading := { before.reading with isPushedBack, last } }
      match result with
      | .error .failed => return text
      | result => Action.resume result

def runCommand (fuel : Nat) (course : Course) (resolved : Resolved) (arguments : List String) :
    Action Nat :=
  match fuel with
  | 0 => return 0
  | fuel + 1 => do
      let name := arguments.headD ""
      let path := if resolved.standard then some standardSearchPath else none
      let command ←
        match resolved.command with
        | .builtin name => pure (Command.builtin name)
        | _ =>
            findCommand { path, skipsFunctions := resolved.skipsFunctions, complains := true } name
      match command with
      | .unknown => do
          Action.setStatus 127
          return 127
      | .program index =>
          let search := path.getD (← get).searchPath
          if course.isLast && !(← hasTraps) then execute fuel search (index.getD 0) arguments
          else
            let job ← modifyGet (·.startJob)
            let id ← Action.fork do
              match ← Action.attempt (execute fuel search (index.getD 0) arguments : Action Unit) with
              | _ => Action.finish (.exited (← get).status)
            modify fun shell =>
              shell.updateJob job fun job => { job with stages := [(id, none)] }
            awaitJob job
      | .builtin "" => do
          modify fun shell => { shell with status := shell.substituted }
          noteEnds
          return (← get).status
      | .builtin builtin => do
          let action := runNamed fuel course builtin (arguments.drop 1)
          match ← runBuiltin name action with
          | .ok () => pure ()
          | .error .failed => if resolved.isSpecial = some true then throw .failed
          | .error interruption => throw interruption
          noteEnds
          return (← get).status
      | .function function => do
          runFunction fuel course function (arguments.drop 1)
          noteEnds
          return (← get).status

def execute {α : Type} (fuel : Nat) (search : String) (index : Nat) (arguments : List String) :
    Action α :=
  match fuel with
  | 0 => Action.finish (.exited 2)
  | fuel + 1 => do
      let block := (← get).block
      let name := arguments.headD ""
      let start : Start := { self := name, operands := arguments.drop 1 }
      let loaded ← Action.ask fun id machine =>
        loadProgram (sceneOf id machine) search index block start
      match loaded with
      | .ok loaded => do
          Action.request fun id machine => ((), machine.renew id)
          Action.become (interpret fuel loaded block)
      | .error errno => do
          complain s!"{name}: {programReason errno}"
          let _ ← flush
          Action.setStatus (refusalStatus errno)
          throw .ended

def runFunction (fuel : Nat) (course : Course) (function : Function) (arguments : List String) :
    Action Unit :=
  match fuel with
  | 0 => return
  | fuel + 1 => do
      let before ← get
      if callLimit ≤ before.calls then
        fail s!"Maximum function recursion depth ({callLimit}) reached"
      modify fun shell =>
        { shell with arguments, cursor := {}, loops := 0, calls := shell.calls + 1 }
      let result ← Action.attempt (evaluate fuel { isTested := course.isTested } function.body)
      modify fun shell =>
        let skip := match shell.skip with
          | .function _ => .nothing
          | skip => skip
        { shell with
          arguments := before.arguments, cursor := before.cursor, loops := before.loops
          calls := before.calls, skip }
      let _ ← Action.resume result

def runNamed (fuel : Nat) (course : Course) (name : String) (operands : List String) : Action Nat :=
  match fuel with
  | 0 => return 0
  | fuel + 1 => do
      match name, operands with
      | ".", operands => do
          match ← operandsOnly operands with
          | [] => return 0
          | file :: _ => do
              let path ← includedFile file
              let number ← openSource path
              pushSource { descriptor := some number }
              modify fun shell => { shell with command := some path }
              let status ← runLines fuel false 0 0
              popSource
              return status
      | "eval", [] => return 0
      | "eval", operands =>
          evaluateText fuel { isTested := course.isTested } (" ".intercalate operands)
      | "exec", [] => return 0
      | "exec", operands => execute fuel (← get).searchPath 0 operands
      | name, operands =>
          match plainBuiltin? name with
          | some action => action operands
          | none => return 0

/-- Evaluates a text as a script; the answer is the status of its last command. -/
def evaluateText (fuel : Nat) (course : Course) (text : String) : Action Nat :=
  match fuel with
  | 0 => return 0
  | fuel + 1 => do
      pushSource { chars := text.toList }
      let status ← evaluateLines fuel course 0
      popSource
      return status

def evaluateLines (fuel : Nat) (course : Course) (status : Nat) : Action Nat :=
  match fuel with
  | 0 => return status
  | fuel + 1 => do
      match ← Parser.readCommand none with
      | none => return status
      | some statement => do
          let result ← evaluate fuel course statement
          let status := if statement.isNothing then status else result
          if (← get).skip ≠ .nothing then return status else evaluateLines fuel course status

/-- Evaluates the commands of a file, line by line. -/
def runLines (fuel : Nat) (isTop : Bool) (hints status : Nat) : Action Nat :=
  match fuel with
  | 0 => return status
  | fuel + 1 => do
      let isShown := isTop && (← get).has "interactive"
      let prompt (name : String) : Action String := do
        expandPrompt fuel (((← get).value? name).getD "")
      if isShown then writeError (← prompt "PS1")
      let continuation ← if isShown then do pure (some (← prompt "PS2")) else pure none
      match ← Parser.readCommand continuation with
      | none =>
          if isTop && hints < exitHints then
            if (← get).has "ignoreeof" then
              writeError exitHint
              runLines fuel isTop (hints + 1) status
            else
              if isShown then writeError "\n"
              return status
          else return status
      | some statement => do
          let result ← evaluate fuel {} statement
          let status := if statement.isNothing then status else result
          match (← get).skip with
          | .nothing => runLines fuel isTop 0 status
          | .function _ => do
              modify fun shell => { shell with skip := .nothing }
              return status
          | _ => return status

/-- Evaluates the commands of a file, if there is one, whose name is worked out first. -/
def readProfile (fuel : Nat) (name : String) : Action Unit :=
  match fuel with
  | 0 => return
  | fuel + 1 => do
      if let some number ← openSource? (← expandPrompt fuel name) then
        pushSource { descriptor := some number }
        let _ ← runLines fuel false 0 0
        popSource

/-- What a script's interpreter does, one part after the other. -/
def partsOf (fuel : Nat) (startup : Startup) : List (Action Unit) :=
  match fuel with
  | 0 => []
  | fuel + 1 =>
      let profiles : List (Action Unit) :=
        if startup.isLogin then
          [readProfile fuel "/etc/profile", readProfile fuel "$HOME/.profile"]
        else []
      let start : Action Unit := do
        let shell ← get
        if shell.has "interactive" then
          match shell.value? "ENV" with
          | none | some "" => return
          | some name => readProfile fuel name
      let main : Action Unit := do
        if let some text := startup.text then
          let _ ← evaluateText fuel {} text
        if startup.text.isNone || (← get).has "stdin" then
          let _ ← runLines fuel true 0 0
      profiles ++ [start, main]

/-- Does one part after the other. Where commands come from somebody who waits for answers, a failure ends
a part only, and behind the last one it goes on with further commands. -/
def converse (fuel : Nat) (parts : List (Action Unit)) : Action Unit :=
  match fuel, parts with
  | 0, _ | _, [] => return
  | fuel + 1, part :: rest => do
      match ← Action.attempt part with
      | .ok () => converse fuel rest
      | .error .failed =>
          if (← get).has "interactive" then
            startOver
            let further : Action Unit := do let _ ← runLines fuel true 0 0
            converse fuel (if rest.isEmpty then [further] else rest)
          else throw .failed
      | .error interruption => throw interruption

/-- The program that reads scripts, given the words and the variables that it is started with. -/
def interpret (fuel : Nat) (start : Start) (block : List String) (id : Nat)
    (machine : Kernel.Machine) : Kernel.Progress :=
  match fuel with
  | 0 => (machine.finish id (.exited 2), .ended)
  | fuel + 1 =>
      let deafTo := ((machine.task? id).map (·.ignored)).getD []
      let shell : Shell := { id, rootId := id, self := "sh", deafTo }
      let script : Action Unit := do
        adoptVariables block
        let startup ← startScript start
        let _ ← flush
        converse fuel (partsOf fuel startup)
      asProcess fuel script shell machine (fun value _ _ => value.elim)
        fun _ shell machine => (machine.finish shell.id (.exited 2), .ended)

end

end LineShell.Script
