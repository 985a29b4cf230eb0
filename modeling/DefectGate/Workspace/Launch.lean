import DefectGate.Capture
import DefectGate.Workspace.Shell.Run

/-!
# Launches

A program is started on the files of a workspace and runs to its end in virtual time. What it wrote,
when it ended and how long others held its pipe are then told as the events of a capture.
-/
namespace DefectGate.Workspace

open Shell (Text)

/-- How long a program takes before it does anything. -/
def startTime : Nat := 1000000

/-- The number of the first process of a launch. -/
def firstId : Nat := 100

/-- The variables that a program is started with. -/
def environment : List (Text × Text) :=
  [("PATH", "bin:/usr/local/sbin:/usr/local/bin:/usr/sbin:/usr/bin:/sbin:/bin"),
    ("HOME", "/root")].map fun (name, value) => (name.toList, value.toList)

/-- A process of its own with the given place for diagnostics, before it runs. -/
def Session.start (f : Files) (stream : Stream) (limit : Option Nat) : Session where
  process := .fresh firstId [] [(0, .sink), (1, .sink), (2, stream)] environment
  machine :=
    { files := f, channels := [], clock := 0, limit, written := [], heldUntil := 0, jobs := []
      job := 0, pending := [], lastId := firstId }

/-- The session of a program that has run to its end or to the limit. -/
def Session.ofImage (f : Files) (stream : Stream) (limit : Option Nat) (image : Image) :
    Session :=
  let s := (Session.start f stream limit).advance startTime
  if s.isOver then s else (Shell.outcomeOf (Shell.image Shell.depth image) s).2

/-- Until when anybody holds the watched pipe. -/
def Session.heldUntil (s : Session) : Nat :=
  (s.machine.jobs.map (·.holdsUntil)).foldl max s.machine.heldUntil

/-- Something that changes what the waiting side sees. -/
structure Moment where
  time : Nat
  event : Capture.Event
  deriving Repr

/-- The end of a program, the end of its stream and the look that is taken when the limit is
reached, in the order of time; of two at one time the look comes first. -/
def Session.moments (s : Session) : List Moment :=
  let looks : List Moment := s.machine.limit.toList.map fun limit => ⟨limit, .polled⟩
  let ends : List Moment := [⟨s.machine.clock, .exited⟩, ⟨s.heldUntil, .closed⟩]
  (looks ++ ends).mergeSort fun a b => a.time ≤ b.time

/-- Tells moments with what was written before each of them. After each the reader reads and the
waiting side looks. -/
def tell : (now : Nat) → List Written → List Moment → List Capture.Event
  | _, _, [] => []
  | now, ws, m :: ms =>
    let earlier := ws.takeWhile (·.time ≤ m.time)
    let bytes := earlier.flatMap (·.bytes)
    [.elapsed ⟨m.time - now⟩, .wrote bytes, m.event, .read bytes.length, .read 1, .polled, .polled]
      ++ tell m.time (ws.drop earlier.length) ms

def Session.events (s : Session) : List Capture.Event :=
  tell 0 (s.machine.written.reverse.mergeSort fun a b => a.time ≤ b.time) s.moments

/-- Starts a program and watches its diagnostics. -/
def Files.launch (f : Files) (command : List Bytes) (limit : Option Duration) :
    Except Host.Error (List Capture.Event × Files) := do
  let image ← Image.ofCommand f command
  let s := Session.ofImage f .diagnostics (limit.map (·.nanoseconds)) image
  return (s.events, { s.files with here := f.here })

/-- Starts a program for what it does to files alone. -/
def Files.probe (f : Files) (program : Bytes) : Except Host.Error Files := do
  let image ← Image.ofCommand f [program, Text.toBytes "--version".toList]
  return { (Session.ofImage f .sink none image).files with here := f.here }

end DefectGate.Workspace
