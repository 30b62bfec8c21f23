import LineShell.Text.Fields
/-!
Signals: their names, the texts that tell of an end by one, and what a signal does to a process that
makes no arrangement for it.
-/

namespace LineShell.Kernel.Signal

/-- The signals that have a name of their own, from the first number on, with the texts that tell of an
end by the signal. -/
def table : List (String × String) :=
  [ ("HUP", "Hangup"), ("INT", "Interrupt"), ("QUIT", "Quit"), ("ILL", "Illegal instruction"),
    ("TRAP", "Trace/breakpoint trap"), ("ABRT", "Aborted"), ("BUS", "Bus error"),
    ("FPE", "Floating point exception"), ("KILL", "Killed"), ("USR1", "User defined signal 1"),
    ("SEGV", "Segmentation fault"), ("USR2", "User defined signal 2"), ("PIPE", "Broken pipe"),
    ("ALRM", "Alarm clock"), ("TERM", "Terminated"), ("16", "Stack fault"),
    ("CHLD", "Child exited"), ("CONT", "Continued"), ("STOP", "Stopped (signal)"),
    ("TSTP", "Stopped"), ("TTIN", "Stopped (tty input)"), ("TTOU", "Stopped (tty output)"),
    ("URG", "Urgent I/O condition"), ("XCPU", "CPU time limit exceeded"),
    ("XFSZ", "File size limit exceeded"), ("VTALRM", "Virtual timer expired"),
    ("PROF", "Profiling timer expired"), ("WINCH", "Window changed"), ("IO", "I/O possible"),
    ("PWR", "Power failure"), ("SYS", "Bad system call"), ("32", "Unknown signal 32"),
    ("33", "Unknown signal 33") ]

def interrupt : Nat := 2
def quit : Nat := 3
def floatingPoint : Nat := 8
def kill : Nat := 9
def brokenPipe : Nat := 13
def terminate : Nat := 15
def child : Nat := 17
def continuing : Nat := 18
def stop : Nat := 19

/-- The first number that no signal has. -/
def bound : Nat := 65

/-- The first and the last of the signals that are known by their distance from these two. -/
def realTimeFirst : Nat := 34
def realTimeLast : Nat := 64

/-- The name of a number; zero stands for the exit of a process. -/
def name (number : Nat) : String :=
  if number = 0 then "EXIT"
  else match table[number - 1]? with
    | some (name, _) => name
    | none =>
        if number = realTimeFirst then "RTMIN"
        else if number = realTimeLast then "RTMAX"
        else if number < realTimeFirst + 16 then s!"RTMIN+{number - realTimeFirst}"
        else s!"RTMAX-{realTimeLast - number}"

def description (number : Nat) : String :=
  match table[number - 1]? with
  | some (_, text) => text
  | none => s!"Real-time signal {number - realTimeFirst}"

/-- The number of a signal given by name, in letters of any case, from a least number on. -/
def ofName? (least : Nat) (text : String) : Option Nat :=
  let wanted := String.ofList (text.toList.map Char.toUpper)
  ((List.range bound).drop least).find? (name · = wanted)

/-- What a signal does to a process that makes no other arrangement. -/
inductive Effect
  | ends
  | stops
  | resumes
  | nothing
deriving DecidableEq, Repr

def effect (number : Nat) : Effect :=
  if number = continuing then .resumes
  else if [stop, 20, 21, 22].contains number then .stops
  else if [0, 17, 23, 28].contains number then .nothing
  else .ends

end LineShell.Kernel.Signal
