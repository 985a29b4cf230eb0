import DefectGate.Workspace.Files
import DefectGate.Workspace.Shell.Grammar

/-!
# Processes

What a process of a workspace holds for itself and what all of them share. Time is virtual: every
command takes a fixed time, sleeping takes as long as it says, and a process with a limit does
nothing any more once its time is over.
-/
namespace DefectGate.Workspace

open Shell (Text)

/-- What a descriptor leads to. -/
inductive Stream where
  | sink
  /-- The pipe that is watched from outside. -/
  | diagnostics
  | file (l : Location)
  /-- Bytes that one process has left for another. -/
  | channel (n : Nat)
  deriving DecidableEq, Repr

/-- What a variable was before a command that changes it only for itself. -/
structure Shadow where
  name : Text
  value : Option Text
  wasExported : Bool
  deriving DecidableEq, Repr

structure Process where
  id : Nat
  /-- The number of the shell that this process is a part of. -/
  shell : Nat
  /-- The processes that wait for this one, the nearest first. -/
  ancestors : List Nat
  /-- What the process calls itself in its messages. -/
  name : Text
  arguments : List Text
  assigned : List (Text × Text)
  /-- The variables that programs started by the process see. -/
  exported : List Text
  /-- The variables that can not be assigned to any more. -/
  fixed : List Text
  functions : List (Text × Shell.Command)
  /-- The letters of the options that are on. -/
  options : Text
  /-- What is run on a signal, or, as number zero, at the end of the process. -/
  traps : List (Nat × Text)
  descriptors : List (Nat × Stream)
  /-- The bits that new files do not get. -/
  mask : Nat
  status : Nat
  /-- The status before what a trap runs. -/
  statusBeforeTrap : Option Nat
  /-- The line of the command that runs. -/
  line : Nat
  /-- The command of the shell itself that runs. -/
  command : Option Text
  /-- How many loops the command that runs lies in. -/
  loops : Nat
  /-- How many functions the command that runs lies in. -/
  calls : Nat
  /-- The variables that get their values back after the function that runs. -/
  shadows : Option (List Shadow)
  /-- The status of the last output that the command that runs has used in its words. -/
  outputStatus : Option Nat
  /-- The number of the argument that the search for options comes to next, and how far it has come
  into the one before that. -/
  optionSearch : Nat × Nat
  /-- The process started last in the background. -/
  child : Option Nat

/-- The variables of a new shell. -/
def usualVariables : List (Text × Text) :=
  [("IFS", " \t\n"), ("PS1", "$ "), ("PS2", "> "), ("PS4", "+ "), ("OPTIND", "1"),
    ("PATH", "/usr/local/sbin:/usr/local/bin:/usr/sbin:/usr/bin:/sbin:/bin")].map
    fun (name, value) => (name.toList, value.toList)

/-- A process with nothing but its descriptors and its environment. -/
def Process.fresh (id : Nat) (ancestors : List Nat) (descriptors : List (Nat × Stream))
    (environment : List (Text × Text)) : Process where
  id := id
  shell := id
  ancestors := ancestors
  name := []
  arguments := []
  assigned := environment.filter (·.1 ≠ "IFS".toList) ++ usualVariables
  exported := environment.map (·.1)
  fixed := []
  functions := []
  options := []
  traps := []
  descriptors := descriptors
  mask := 18
  status := 0
  statusBeforeTrap := none
  line := 0
  command := none
  loops := 0
  calls := 0
  shadows := none
  outputStatus := none
  optionSearch := (1, 0)
  child := none

/-- The variables that a program started by a process sees. -/
def Process.environment (p : Process) : List (Text × Text) :=
  p.assigned.filter (·.1 ∈ p.exported)

/-- Bytes written to the watched pipe, when, and the job that wrote them. -/
structure Written where
  time : Nat
  job : Nat
  bytes : Bytes
  deriving DecidableEq, Repr

/-- A process in the background that has been run to its end. -/
structure Job where
  id : Nat
  /-- The process that has started it. -/
  parent : Nat
  /-- When it ends. -/
  time : Nat
  status : Nat
  /-- Until when it holds the watched pipe. -/
  holdsUntil : Nat
  /-- The channels that it writes to. -/
  channels : List Nat
  deriving DecidableEq, Repr

structure Machine where
  files : Files
  channels : List Content
  /-- Nanoseconds since the start. -/
  clock : Nat
  /-- When the running process is killed. -/
  limit : Option Nat
  /-- What has been written to the watched pipe, the last first. -/
  written : List Written
  /-- Until when a process has held the watched pipe. -/
  heldUntil : Nat
  /-- The processes in the background, the last one started first. -/
  jobs : List Job
  /-- The process in the background that runs, or zero. -/
  job : Nat
  /-- The signals that processes have not noticed yet. -/
  pending : List (Nat × Nat)
  lastId : Nat
  deriving Repr

/-- A process on its machine. -/
structure Session where
  process : Process
  machine : Machine

namespace Session

/-! ## Descriptors -/

def stream? (s : Session) (descriptor : Nat) : Option Stream :=
  (s.process.descriptors.find? (·.1 = descriptor)).map (·.2)

def close (s : Session) (descriptor : Nat) : Session :=
  { s with process.descriptors := s.process.descriptors.filter (·.1 ≠ descriptor) }

def connect (s : Session) (descriptor : Nat) (stream : Stream) : Session :=
  let others := s.process.descriptors.filter (·.1 ≠ descriptor)
  { s with process.descriptors := (descriptor, stream) :: others }

/-- Makes a descriptor what it was before. -/
def reset (s : Session) (descriptor : Nat) : Option Stream → Session
  | some stream => s.connect descriptor stream
  | none => s.close descriptor

def holdsDiagnostics (s : Session) : Bool := s.process.descriptors.any (·.2 = .diagnostics)

/-! ## Time -/

/-- Whether the time of the process is over. -/
def isOver (s : Session) : Bool := s.machine.limit.any (· ≤ s.machine.clock)

/-- Lets time pass, but not beyond the limit. -/
def advance (s : Session) (nanoseconds : Nat) : Session :=
  let clock := s.machine.clock + nanoseconds
  let clock := match s.machine.limit with | none => clock | some limit => min clock limit
  let held := if s.holdsDiagnostics then max s.machine.heldUntil clock else s.machine.heldUntil
  { s with machine.clock := clock, machine.heldUntil := held }

def advanceTo (s : Session) (time : Nat) : Session := s.advance (time - s.machine.clock)

/-! ## Files and streams -/

def files (s : Session) : Files := s.machine.files

def setFiles (s : Session) (f : Files) : Session := { s with machine.files := f }

/-- Writes to a descriptor, if it is open. -/
def write? (s : Session) (descriptor : Nat) (t : Text) : Option Session :=
  (s.stream? descriptor).map fun stream =>
    match stream with
    | .sink => s
    | .diagnostics =>
      let w : Written := ⟨s.machine.clock, s.machine.job, t.toBytes⟩
      { s with
        machine.written := w :: s.machine.written
        machine.heldUntil := max s.machine.heldUntil s.machine.clock }
    | .file l => s.setFiles (s.files.append l t.toBytes)
    | .channel n => { s with machine.channels := s.machine.channels.modify n (·.append t.toBytes) }

def write (s : Session) (descriptor : Nat) (t : Text) : Session :=
  (s.write? descriptor t).getD s

/-- A new channel that holds the given bytes. -/
def openChannel (s : Session) (content : Bytes) : Nat × Session :=
  (s.machine.channels.length,
    { s with machine.channels := s.machine.channels ++ [.ofBytes content] })

def channelText (s : Session) (n : Nat) : Text :=
  .ofBytes ((s.machine.channels[n]?.map Content.bytes).getD [])

/-- Waits until nobody writes to a channel any more. -/
def awaitChannel (s : Session) (n : Nat) : Session :=
  s.advanceTo (((s.machine.jobs.filter (n ∈ ·.channels)).map (·.time)).foldl max 0)

/-- Takes everything that can be read from a descriptor. -/
def takeAll (s : Session) (descriptor : Nat) : Text × Session :=
  match s.stream? descriptor with
  | some (.channel n) =>
    let s := s.awaitChannel n
    (s.channelText n, { s with machine.channels := s.machine.channels.set n .empty })
  | _ => ([], s)

/-- Leaves something to be read from a descriptor again. -/
def putBack (s : Session) (descriptor : Nat) (t : Text) : Session :=
  match s.stream? descriptor with
  | some (.channel n) =>
    let content := Content.ofBytes (t ++ s.channelText n).toBytes
    { s with machine.channels := s.machine.channels.set n content }
  | _ => s

/-- Says something about the command that runs on the stream for diagnostics. -/
def complain (s : Session) (message : String) : Session :=
  let command := match s.process.command with | some c => c ++ [':', ' '] | none => []
  let place := s!": {s.process.line}: ".toList
  s.write 2 (s.process.name ++ place ++ command ++ message.toList ++ ['\n'])

/-! ## Variables -/

def lookup? (s : Session) (name : Text) : Option Text :=
  (s.process.assigned.find? (·.1 = name)).map (·.2)

def assign (s : Session) (name value : Text) : Session :=
  let others := s.process.assigned.filter (·.1 ≠ name)
  { s with process.assigned := (name, value) :: others }

def unassign (s : Session) (name : Text) : Session :=
  { s with
    process.assigned := s.process.assigned.filter (·.1 ≠ name)
    process.exported := s.process.exported.filter (· ≠ name) }

/-- Lets programs that are started see variables. -/
def reveal (s : Session) (names : List Text) : Session :=
  { s with process.exported := names ++ s.process.exported }

/-- What a variable is now. -/
def shadow (s : Session) (name : Text) : Shadow :=
  ⟨name, s.lookup? name, name ∈ s.process.exported⟩

/-- Makes a variable what it was. -/
def unshadow (s : Session) (old : Shadow) : Session :=
  let s := s.unassign old.name
  let s := match old.value with | some value => s.assign old.name value | none => s
  if old.wasExported then s.reveal [old.name] else s

/-! ## Processes -/

def status (s : Session) (n : Nat) : Session := { s with process.status := n }

/-- A process that goes on like this one by itself. Only what is to be ignored stays trapped. -/
def fork (s : Session) : Session :=
  let id := s.machine.lastId + 1
  { process := { s.process with
      id
      ancestors := s.process.id :: s.process.ancestors
      traps := s.process.traps.filter (·.2 = [])
      statusBeforeTrap := none }
    machine := { s.machine with lastId := id } }

/-- The session of a process that has waited for a child: nothing of the child stays but its status
and what all processes share. -/
def after (s child : Session) : Session where
  process := { s.process with status := child.process.status }
  machine := { child.machine with files := { child.machine.files with here := s.files.here } }

end Session
end DefectGate.Workspace
