import DefectGate.Bytes
import DefectGate.Duration
import DefectGate.Host.Error

/-!
# Capturing the diagnostic stream

An analyzer that has been started writes into a pipe. Its descendants may hold the pipe as well and
outlive it; a reader empties the pipe on the side; the clock moves. All of them move independently,
so what happens around a run is a list of events in any order. The waiting side looks now and then,
and only what it sees when it looks decides.

Without a limit it waits for the end of the stream and then for the analyzer. With a limit it waits
for the analyzer first, kills it when the limit is reached, and gives the reader what is left of
the same limit to finish.
-/
namespace DefectGate.Capture

inductive Event where
  /-- Some holder of the pipe writes. -/
  | wrote (bytes : Bytes)
  /-- The analyzer itself ends. -/
  | exited
  /-- The last holder lets go of the pipe. -/
  | closed
  /-- The reader takes up to so many bytes, or notices that no more will come. -/
  | read (most : Nat)
  | readFailed (cause : Host.Error)
  | elapsed (time : Duration)
  /-- The waiting side looks. -/
  | polled
  | waitFailed (cause : Host.Error)
  deriving DecidableEq, Repr

inductive Reader where
  | running
  | finished
  | failed (cause : Host.Error)
  deriving DecidableEq, Repr

/-- How a run ended for the waiting side. -/
inductive Result where
  | complete (bytes : Bytes)
  | timedOut
  | failed (cause : Host.Error)
  deriving DecidableEq, Repr

/-- What the waiting side waits for. -/
inductive Phase where
  /-- The analyzer's end, while there is a limit. -/
  | running
  /-- The end of the stream. -/
  | draining
  /-- The analyzer's end after the end of the stream. -/
  | reaping
  | done (result : Result)
  deriving DecidableEq, Repr

structure State where
  now : Nat
  /-- The analyzer has ended, whether or not that has been noticed. -/
  exited : Bool
  /-- Its end has been noticed. -/
  reaped : Bool
  closed : Bool
  /-- Written and not yet read. -/
  pipe : Bytes
  /-- Read so far. -/
  taken : Bytes
  reader : Reader
  phase : Phase
  deriving DecidableEq, Repr

def State.start (limit : Option Duration) : State where
  now := 0
  exited := false
  reaped := false
  closed := false
  pipe := []
  taken := []
  reader := .running
  phase := if limit.isSome then .running else .draining

/-- The reader's turn. -/
def State.read (s : State) (most : Nat) : State :=
  if s.reader ≠ .running then s
  else if s.pipe = [] then (if s.closed then { s with reader := .finished } else s)
  else { s with taken := s.taken ++ s.pipe.take most, pipe := s.pipe.drop most }

/-- Whether the limit has been reached. -/
def State.late (s : State) (limit : Option Duration) : Bool :=
  match limit with
  | none => false
  | some d => d.nanoseconds ≤ s.now

/-- The waiting side's turn. -/
def State.poll (s : State) (limit : Option Duration) : State :=
  match s.phase with
  | .done _ => s
  | .running =>
    if s.exited then { s with reaped := true, phase := .draining }
    else if s.late limit then
      { s with exited := true, reaped := true, phase := .done .timedOut }
    else s
  | .draining =>
    match s.reader with
    | .finished =>
      if s.reaped then { s with phase := .done (.complete s.taken) }
      else { s with phase := .reaping }
    | .failed cause => { s with phase := .done (.failed cause) }
    | .running => if s.late limit then { s with phase := .done .timedOut } else s
  | .reaping =>
    if s.exited then { s with reaped := true, phase := .done (.complete s.taken) } else s

/-- One event. Nothing is written to a pipe that nobody holds, and the reader fails only while it
runs. -/
def State.step (limit : Option Duration) (s : State) : Event → State
  | .wrote bytes => if s.closed then s else { s with pipe := s.pipe ++ bytes }
  | .exited => { s with exited := true }
  | .closed => { s with closed := true }
  | .read most => s.read most
  | .readFailed cause => if s.reader = .running then { s with reader := .failed cause } else s
  | .elapsed time => { s with now := s.now + time.nanoseconds }
  | .polled => s.poll limit
  | .waitFailed cause =>
    match s.phase with
    | .running | .reaping => { s with phase := .done (.failed cause) }
    | _ => s

def run (limit : Option Duration) (events : List Event) : State :=
  events.foldl (State.step limit) (.start limit)

/-- A run whose events stop before it ended has lost its reader. -/
def lostReader : Host.Error := .explained .other "stderr reader panicked"

def result (limit : Option Duration) (events : List Event) : Result :=
  match (run limit events).phase with
  | .done r => r
  | _ => .failed lostReader

/-- Everything that was written before the pipe was closed. -/
def written : List Event → Bytes
  | [] => []
  | .wrote bytes :: rest => bytes ++ written rest
  | .closed :: _ => []
  | _ :: rest => written rest

end DefectGate.Capture
