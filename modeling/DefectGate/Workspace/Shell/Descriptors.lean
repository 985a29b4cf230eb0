import DefectGate.Workspace.Shell.Action
import DefectGate.Workspace.Streams

/-!
# Redirections

Opening, copying and closing the descriptors of a shell.
-/
namespace DefectGate.Workspace.Shell

/-- What is said about an error of the system. -/
def errorText : Host.Error → String
  | .number n => Host.ErrorNumber.text n
  | e => e.message

/-- Whether an error says that a path leads nowhere. -/
def isAbsence (e : Host.Error) : Bool := e = Files.noEntry || e = Files.notDirectory

/-- Why a file could not be opened for reading. -/
def readRefusal (path : Text) (e : Host.Error) : String :=
  s!"cannot open {String.ofList path}: " ++ if isAbsence e then "No such file" else errorText e

/-- Why a file could not be opened for writing. -/
def writeRefusal (path : Text) (e : Host.Error) : String :=
  s!"cannot create {String.ofList path}: " ++
    if isAbsence e then "Directory nonexistent" else errorText e

namespace Action

/-- Makes a descriptor lead to what has been opened. -/
def connect (descriptor : Nat) (refusal : Host.Error → String)
    (opened : Except Host.Error (Stream × Session)) : Action Unit := do
  match opened with
  | .ok (stream, s) => set (s.connect descriptor stream)
  | .error e => fail (refusal e)

/-- Makes a descriptor a copy of another one, or closes it. -/
def duplicate (descriptor : Nat) (source : Text) : Action Unit := do
  if source = ['-'] then modify (·.close descriptor)
  else
    match (number? source).bind (← get).stream? with
    | some stream => modify (·.connect descriptor stream)
    | none => fail (String.ofList source ++ ": Bad file descriptor")

/-- Redirects a descriptor to what a word has turned out to be. -/
def redirect (descriptor : Nat) (kind : Redirection.Kind) (target : Text) : Action Unit := do
  let s ← get
  let write (how : Opening) : Action Unit :=
    connect descriptor (writeRefusal target) (s.streamToWrite how target)
  match kind with
  | .input => connect descriptor (readRefusal target) (s.streamToRead target)
  | .output => write .replacing
  | .newOutput => write (if ← hasOption 'C' then .protecting else .replacing)
  | .append => write .appending
  | .both =>
    match s.streamToWrite .appending target with
    | .ok (_, made) =>
      connect descriptor (readRefusal target)
        (if descriptor = 0 then made.streamToRead target else made.streamToWrite .appending target)
    | .error e => fail (writeRefusal target e)
  | .duplicate => duplicate descriptor target
  | .document =>
    let (n, s) := s.openChannel target.toBytes
    set (s.connect descriptor (.channel n))

end Action
end DefectGate.Workspace.Shell
