import DefectGate.Workspace.Streams

/-!
# Signals

The signals by number and name, what is said about a process that one of them has ended, and how one
is sent.
-/
namespace DefectGate.Workspace

namespace Shell
namespace Signal

/-- The names of the signals from number one on; some have only their number for a name. -/
def firstNames : List String :=
  ["HUP", "INT", "QUIT", "ILL", "TRAP", "ABRT", "BUS", "FPE", "KILL", "USR1", "SEGV", "USR2",
    "PIPE", "ALRM", "TERM", "16", "CHLD", "CONT", "STOP", "TSTP", "TTIN", "TTOU", "URG", "XCPU",
    "XFSZ", "VTALRM", "PROF", "WINCH", "IO", "PWR", "SYS", "32", "33", "RTMIN"]

/-- All names; the number zero stands for the end of a process. -/
def names : List String :=
  "EXIT" :: firstNames ++ (List.range 15).map (fun n => s!"RTMIN+{n + 1}") ++
    (List.range 14).map (fun n => s!"RTMAX-{14 - n}") ++ ["RTMAX"]

def name (n : Nat) : String := names.getD n ""

/-- The signal that a text names or numbers, from the number `least` on. -/
def ofText? (least : Nat) (t : Text) : Option Nat :=
  match number? t with
  | some n => if n < names.length then some n else none
  | none =>
    let upper := String.ofList (t.map Char.toUpper)
    (List.range names.length).find? fun n => least ≤ n && name n = upper

/-- Signals that do nothing unless they are trapped. -/
def harmless : List Nat := [17, 18, 19, 20, 21, 22, 23, 28]

def texts : List (Nat × String) :=
  [(1, "Hangup"), (3, "Quit"), (4, "Illegal instruction"), (5, "Trace/breakpoint trap"),
    (6, "Aborted"), (7, "Bus error"), (8, "Floating point exception"), (9, "Killed"),
    (10, "User defined signal 1"), (11, "Segmentation fault"), (12, "User defined signal 2"),
    (14, "Alarm clock"), (15, "Terminated"), (16, "Stack fault"), (24, "CPU time limit exceeded"),
    (25, "File size limit exceeded"), (26, "Virtual timer expired"),
    (27, "Profiling timer expired"), (29, "I/O possible"), (30, "Power failure"),
    (31, "Bad system call")]

/-- What is said about a process that a signal has ended. Two signals end it silently. -/
def text? (n : Nat) : Option String :=
  if n = 2 ∨ n = 13 then none
  else if 34 ≤ n then some s!"Real-time signal {n - 34}"
  else (texts.find? (·.1 = n)).map (·.2)

end Signal
end Shell

/-- A job that a signal reaches at a time. Nothing is left of what it would have done later. -/
def Job.ended (j : Job) (signal time : Nat) : Job :=
  if j.time ≤ time then j
  else { j with time, status := 128 + signal, holdsUntil := min j.holdsUntil time }

namespace Session

/-- Sends a signal to a job. -/
def signalJob (s : Session) (id signal : Nat) : Session :=
  if signal = 0 ∨ signal ∈ Shell.Signal.harmless then s
  else
    let clock := s.machine.clock
    { s with
      machine.jobs := s.machine.jobs.map fun j =>
        if j.id = id then j.ended signal clock else j
      machine.written := s.machine.written.filter fun w => w.job ≠ id || w.time ≤ clock }

/-- Sends a signal to a process, if there is one with this number. -/
def signal? (s : Session) (id signal : Nat) : Option Session :=
  if id = s.process.id ∨ id ∈ s.process.ancestors then
    some { s with machine.pending := s.machine.pending ++ [(id, signal)] }
  else if s.machine.jobs.any (·.id = id) then some (s.signalJob id signal)
  else none

/-- Says that a child was ended by a signal, and takes the status for that. -/
def afterSignal (s : Session) (n : Nat) : Session :=
  let s :=
    match Shell.Signal.text? n with
    | some t => s.write 2 (t ++ "\n").toList
    | none => s
  s.status (128 + n)

end Session
end DefectGate.Workspace
