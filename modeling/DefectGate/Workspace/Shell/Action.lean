import DefectGate.Workspace.Streams

/-!
# Actions

What a command does to a session, and why the command after it does not run, if it does not.
-/
namespace DefectGate.Workspace.Shell

inductive Stop where
  /-- The process ends by itself. -/
  | exit
  /-- An error was reported that ends the script. -/
  | failure
  /-- The process is ended by a signal. -/
  | signal (n : Nat)
  /-- The time of the process is over. -/
  | killed
  /-- So many loops end. -/
  | break (loops : Nat)
  /-- So many loops end but for the last one, which goes on with its next turn. -/
  | continue (loops : Nat)
  /-- The function that runs ends. -/
  | return
  deriving DecidableEq, Repr

abbrev Action := ExceptT Stop (StateM Session)

namespace Action

def status (n : Nat) : Action Unit := modify (·.status n)

def lastStatus : Action Nat := return (← get).process.status

def complain (message : String) : Action Unit := modify (·.complain message)

/-- Reports an error that ends the script. -/
def fail (message : String) : Action α := do
  complain message
  status 2
  throw .failure

/-- Changes what the process holds for itself. -/
def update (f : Process → Process) : Action Unit :=
  modify fun s => { s with process := f s.process }

def hasOption (letter : Char) : Action Bool := return letter ∈ (← get).process.options

/-- Ends the script if a variable can not be changed. -/
def demandFree (name : Text) : Action Unit := do
  if (← get).process.fixed.contains name then fail (String.ofList name ++ ": is read only")

/-- Assigns to a variable unless that is forbidden. -/
def assign (name value : Text) : Action Unit := do
  if !isName name then fail (String.ofList name ++ ": bad variable name")
  demandFree name
  modify (·.assign name value)
  if name = "OPTIND".toList then
    update fun p => { p with optionSearch := (max 1 ((number? value).getD 1), 0) }
  if ← hasOption 'a' then modify (·.reveal [name])

def unassign (name : Text) : Action Unit := do
  if !isName name then fail (String.ofList name ++ ": bad variable name")
  demandFree name
  modify (·.unassign name)

/-- What a run has come to. -/
def attempt (a : Action Unit) : Action (Option Stop) :=
  tryCatch (do a; return none) fun stop => return some stop

/-- Does something at the end of an action, however it ends. -/
def andThen (a : Action Unit) (after : Session → Session) : Action Unit := do
  let stop ← attempt a
  modify after
  match stop with
  | none => return
  | some stop => throw stop

/-- How a turn of a loop has ended. -/
inductive Turn where
  | complete
  /-- The loop goes on with its next turn at once. -/
  | skipped
  | last
  deriving DecidableEq, Repr

/-- Does a part of a turn of a loop. -/
def turn (a : Action Unit) : Action Turn := do
  match ← attempt a with
  | none => return .complete
  | some (.break n) => if 1 < n then throw (.break (n - 1)) else return .last
  | some (.continue n) => if 1 < n then throw (.continue (n - 1)) else return .skipped
  | some stop => throw stop

/-- Runs a loop one deeper than what it lies in. -/
def looping (a : Action Unit) : Action Unit := do
  let loops := (← get).process.loops
  update fun p => { p with loops := loops + 1 }
  andThen a fun s => { s with process.loops := loops }

end Action
end DefectGate.Workspace.Shell
